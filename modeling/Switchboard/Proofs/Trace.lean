import Mathlib.Tactic.Common
import Switchboard.Delivery

/-!
# What runs in a delivery

A delivery is determined by the callbacks that run in it, taken in the order in which they run, each
with the event that it is given: `Delivery.ran` lists them. Every callback but the logger takes note
of its event, the logger logs it, and some callbacks write to the shared slot (`Event.writes`). So
the slots, the events and the records of a delivery are all read off that list (`deliver_eq`,
`deliverAll_eq`), and the list itself depends neither on the domains that have been captured nor on
the log filter.
-/

namespace Switchboard

/-- Whether a callback leaves the shared slot alone. -/
def Callback.isLocal : Callback → Bool
  | .first | .second | .logger => true
  | .clear | .replace | .nest => false

/-- Something put into a slot, or a slot emptied. -/
structure Write where
  slot : SlotName
  callback : Option Callback
  deriving DecidableEq, Repr

namespace Slots

/-- The slots after some writes, the earliest first. -/
def write (s : Slots) (ws : List Write) : Slots :=
  ws.foldl (fun s w => s.put w.slot w.callback) s

@[simp] theorem write_cons (s : Slots) (w : Write) (ws : List Write) :
    s.write (w :: ws) = (s.put w.slot w.callback).write ws :=
  rfl

theorem write_append (s : Slots) (a b : List Write) : s.write (a ++ b) = (s.write a).write b := by
  simp only [write, List.foldl_append]

theorem get_write_of_forall_ne {name : SlotName} :
    ∀ (ws : List Write) (s : Slots), (∀ w ∈ ws, w.slot ≠ name) → (s.write ws).get name = s.get name
  | [], _, _ => rfl
  | w :: ws, s, h => by
    have hw : name ≠ w.slot := (h w List.mem_cons_self).symm
    have ih := get_write_of_forall_ne ws (s.put w.slot w.callback)
      fun v hv => h v (List.mem_cons_of_mem _ hv)
    rw [write_cons, ih, get_put_of_ne s hw]

end Slots

namespace Event

/-- What a callback writes when it runs. -/
def writes (e : Event) : List Write :=
  match e.callback with
  | .clear => [⟨.shared, none⟩]
  | .replace => [⟨.shared, some .first⟩]
  | .first | .second | .nest | .logger => []

def isNoted (e : Event) : Bool :=
  e.callback != .logger

/-- The event that the logger is given, if it is the logger that runs. -/
def logged? (e : Event) : Option Call :=
  if e.callback = .logger then some e.call else none

theorem slot_of_mem_writes {e : Event} {w : Write} (h : w ∈ e.writes) : w.slot = .shared := by
  obtain ⟨cb, c⟩ := e
  cases cb <;> simp [writes] at h <;> rw [h]

theorem slot_of_mem_flatMap_writes {es : List Event} {w : Write} (h : w ∈ es.flatMap writes) :
    w.slot = .shared := by
  obtain ⟨e, -, he⟩ := List.mem_flatMap.1 h
  exact slot_of_mem_writes he

/-- The logger writes nothing, so the writes are those of the callbacks that take note. -/
theorem flatMap_writes_filter_isNoted (es : List Event) :
    (es.filter isNoted).flatMap writes = es.flatMap writes := by
  induction es with
  | nil => rfl
  | cons e es ih =>
    by_cases h : e.callback = .logger
    · have hw : e.writes = [] := by simp only [writes, h]
      rw [List.filter_cons_of_neg (by simp [isNoted, h]), ih, List.flatMap_cons, hw,
        List.nil_append]
    · rw [List.filter_cons_of_pos (by simp [isNoted, h]), List.flatMap_cons, List.flatMap_cons, ih]

end Event

theorem Call.target_of_mem_records {filter : Filter} {captured : Option Domains} {c : Call}
    {r : Record} (h : r ∈ c.records filter captured) : r.target = .events := by
  unfold records at h
  split at h
  · rw [List.mem_singleton.1 h]
    rfl
  · cases h

/-- Asking before logging leaves out no record that would be kept. -/
theorem Call.filter_flatMap_records (f : Filter) (captured : Option Domains) (cs : List Call) :
    ((cs.flatMap (Call.records f captured)).filter fun r => f.admits r.severity) =
      (cs.map (Call.toRecord captured)).filter f.keeps := by
  induction cs with
  | nil => rfl
  | cons c cs ih =>
    have hk : f.keeps (c.toRecord captured) = f.enables c.level.severity .events :=
      f.keeps_of_events rfl
    rw [List.flatMap_cons, List.filter_append, ih, List.map_cons]
    by_cases h : f.enables c.level.severity .events = true
    · have ha : f.admits (c.toRecord captured).severity = true := (Bool.and_eq_true_iff.1 h).1
      rw [records, if_pos h, List.filter_cons_of_pos (hk.trans h)]
      simp only [List.filter_cons, List.filter_nil, ha, if_true]
      rfl
    · rw [records, if_neg h, List.filter_cons_of_neg (by rw [hk]; exact h)]
      rfl

namespace Delivery

variable (filter : Filter) (captured : Option Domains) (slots : Slots)

def ofRan (ran : List Event) : Delivery :=
  ⟨slots.write (ran.flatMap Event.writes), ran.filter Event.isNoted,
    (ran.filterMap Event.logged?).flatMap (Call.records filter captured)⟩

/-- The callbacks that run when an event is handed to a callback, `depth` being how often it can
still be handed on. -/
def ranAt (slots : Slots) : Nat → Callback → Call → List Event
  | depth + 1, .nest, c =>
    ⟨.nest, c⟩ ::
      match slots.shared with
      | some next => ranAt slots depth next c.lower
      | none => []
  | _, cb, c => [⟨cb, c⟩]

def ran (name : SlotName) (c : Call) : List Event :=
  match slots.get name with
  | some cb => ranAt slots c.level.depth cb c
  | none => []

/-- The callbacks that run when events are delivered to a slot one after the other: each event meets
the slots as the ones before it left them. -/
def ranAll (name : SlotName) : Slots → List Call → List Event
  | _, [] => []
  | slots, c :: cs =>
    ran slots name c ++ ranAll name (slots.write ((ran slots name c).flatMap Event.writes)) cs

theorem ofRan_append (a b : List Event) :
    ofRan filter captured slots (a ++ b) =
      let first := ofRan filter captured slots a
      let rest := ofRan filter captured first.slots b
      ⟨rest.slots, first.events ++ rest.events, first.records ++ rest.records⟩ := by
  simp only [ofRan, List.flatMap_append, Slots.write_append, List.filter_append,
    List.filterMap_append]

theorem ofRan_logger (c : Call) :
    ofRan filter captured slots [⟨.logger, c⟩] = ⟨slots, [], c.records filter captured⟩ :=
  congrArg (Delivery.mk slots []) (List.append_nil _)

theorem invokeAt_eq (depth : Nat) (cb : Callback) (c : Call) :
    invokeAt filter captured depth slots cb c =
      ofRan filter captured slots (ranAt slots depth cb c) := by
  induction depth generalizing cb c with
  | zero =>
    cases cb with
    | logger => exact (ofRan_logger filter captured slots c).symm
    | _ => rfl
  | succ depth ih =>
    cases cb with
    | nest =>
      rcases hs : slots.shared with _ | next
      · unfold invokeAt ranAt
        simp only [hs]
        rfl
      · -- `nest` writes nothing, so what it hands on meets the same slots.
        unfold invokeAt ranAt
        simp only [hs, ih next c.lower]
        rfl
    | logger => exact (ofRan_logger filter captured slots c).symm
    | _ => rfl

theorem deliver_eq (name : SlotName) (c : Call) :
    deliver filter captured slots name c = ofRan filter captured slots (ran slots name c) := by
  unfold deliver ran
  rcases slots.get name with _ | cb
  · rfl
  · exact invokeAt_eq filter captured slots _ cb c

theorem deliverAll_eq (name : SlotName) :
    ∀ (cs : List Call) (slots : Slots),
      deliverAll filter captured name slots cs =
        ofRan filter captured slots (ranAll name slots cs)
  | [], slots => rfl
  | c :: cs, slots => by
    simp only [deliverAll, ranAll, ofRan_append, deliver_eq]
    rw [deliverAll_eq name cs]
    rfl

/-- A callback that leaves the shared slot alone runs alone. -/
theorem ranAt_of_isLocal (depth : Nat) {cb : Callback} (h : cb.isLocal = true) (c : Call) :
    ranAt slots depth cb c = [⟨cb, c⟩] := by
  cases cb with
  | clear | replace | nest => simp [Callback.isLocal] at h
  | _ => cases depth <;> rfl

theorem head?_ranAt (depth : Nat) (cb : Callback) (c : Call) :
    (ranAt slots depth cb c).head? = some ⟨cb, c⟩ := by
  cases depth <;> cases cb <;> rfl

/-- The first callback that runs is the one that the slot holds, with the event as it came. -/
theorem head?_ran (name : SlotName) (c : Call) :
    (ran slots name c).head? = (slots.get name).map (⟨·, c⟩) := by
  unfold ran
  rcases slots.get name with _ | cb
  · rfl
  · exact head?_ranAt slots _ cb c

end Delivery

end Switchboard
