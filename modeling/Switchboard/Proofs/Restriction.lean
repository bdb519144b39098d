import Switchboard.Proofs.Runs

/-!
# What one group of slots and libraries sees

The slots and the libraries are divided into two groups. What the first group sees of a state is the
state without the slots and the libraries of the second (`World.restrict`). Restriction commutes
with what happens within the first group, and what happens within the second group is lost in it.

Callbacks are what might cross from one group to the other, since some of them act on the shared
slot wherever they are called from. So the group without the shared slot must hold none of these
(`Split.Quiet`); a delivery to a slot then writes to no slot outside the group of that slot.
-/

namespace Switchboard

inductive Resource where
  | slot (name : SlotName)
  | library (id : LibraryId)
  deriving DecidableEq, Repr

/-- A division of the slots and the libraries into two groups. -/
structure Split where
  inFirst : Resource → Bool

namespace Slots

theorem ext_get {s t : Slots} (h : ∀ name, s.get name = t.get name) : s = t := by
  obtain ⟨shared, left, right⟩ := s
  obtain ⟨shared', left', right'⟩ := t
  have h₁ : shared = shared' := h .shared
  have h₂ : left = left' := h .left
  have h₃ : right = right' := h .right
  rw [h₁, h₂, h₃]

theorem get_put (s : Slots) (name other : SlotName) (cb : Option Callback) :
    (s.put name cb).get other = if other = name then cb else s.get other := by
  split_ifs with h
  · rw [h, get_put_self]
  · exact get_put_of_ne s h cb

end Slots

namespace Split

variable (G : Split)

/-- The slots of the first group. -/
def slots (s : Slots) : Slots :=
  ⟨if G.inFirst (.slot .shared) then s.shared else none,
    if G.inFirst (.slot .left) then s.left else none,
    if G.inFirst (.slot .right) then s.right else none⟩

/-- The group without the shared slot holds no callback that acts on the shared slot. -/
def Quiet (s : Slots) : Prop :=
  ∀ name cb, s.get name = some cb → G.inFirst (.slot name) ≠ G.inFirst (.slot .shared) →
    cb.isLocal = true

variable {G} {s : Slots} {name : SlotName}

theorem get_slots (s : Slots) (name : SlotName) :
    (G.slots s).get name = if G.inFirst (.slot name) then s.get name else none := by
  cases name <;> rfl

theorem slots_put_of_first (h : G.inFirst (.slot name) = true) (s : Slots) (cb : Option Callback) :
    G.slots (s.put name cb) = (G.slots s).put name cb := by
  refine Slots.ext_get fun other => ?_
  simp only [get_slots, Slots.get_put]
  by_cases ho : other = name
  · rw [ho, if_pos rfl, if_pos rfl, if_pos h]
  · rw [if_neg ho, if_neg ho]

theorem slots_put_of_second (h : G.inFirst (.slot name) = false) (s : Slots)
    (cb : Option Callback) : G.slots (s.put name cb) = G.slots s := by
  refine Slots.ext_get fun other => ?_
  simp only [get_slots, Slots.get_put]
  by_cases ho : other = name
  · simp only [ho, h, Bool.false_eq_true, if_false]
  · rw [if_neg ho]

theorem slots_write_of_first : ∀ (ws : List Write) (s : Slots),
    (∀ x ∈ ws, G.inFirst (.slot x.slot) = true) → G.slots (s.write ws) = (G.slots s).write ws
  | [], _, _ => rfl
  | x :: ws, s, h => by
    rw [Slots.write_cons, Slots.write_cons, ← slots_put_of_first (h x List.mem_cons_self)]
    exact slots_write_of_first ws _ fun y hy => h y (List.mem_cons_of_mem _ hy)

theorem slots_write_of_second : ∀ (ws : List Write) (s : Slots),
    (∀ x ∈ ws, G.inFirst (.slot x.slot) = false) → G.slots (s.write ws) = G.slots s
  | [], _, _ => rfl
  | x :: ws, s, h => by
    rw [Slots.write_cons, slots_write_of_second ws _ fun y hy => h y (List.mem_cons_of_mem _ hy)]
    exact slots_put_of_second (h x List.mem_cons_self) s x.callback

/-! ### Deliveries -/

theorem Quiet.put (hq : G.Quiet s) {cb : Option Callback}
    (h : G.inFirst (.slot name) ≠ G.inFirst (.slot .shared) → cb.all Callback.isLocal = true) :
    G.Quiet (s.put name cb) := by
  intro other cb' hg hne
  rw [Slots.get_put] at hg
  split_ifs at hg with ho
  · have hc := h (ho ▸ hne)
    rw [hg] at hc
    exact hc
  · exact hq other cb' hg hne

/-- What callbacks write while events are delivered keeps the slots quiet. -/
theorem Quiet.write_events (es : List Event) (hq : G.Quiet s) :
    G.Quiet (s.write (es.flatMap Event.writes)) := by
  intro name cb hg hne
  have hs : ∀ x ∈ es.flatMap Event.writes, x.slot ≠ name := by
    intro x hx hx'
    rw [Event.slot_of_mem_flatMap_writes hx] at hx'
    exact hne (by rw [hx'])
  rw [Slots.get_write_of_forall_ne _ _ hs] at hg
  exact hq name cb hg hne

end Split

namespace Delivery

variable {G : Split} {s : Slots} {name : SlotName}

theorem ranAt_congr {t : Slots} (h : s.shared = t.shared) (depth : Nat) (cb : Callback) (c : Call) :
    ranAt s depth cb c = ranAt t depth cb c := by
  induction depth generalizing cb c with
  | zero => cases cb <;> rfl
  | succ depth ih =>
    cases cb with
    | nest =>
      unfold ranAt
      rw [h]
      rcases t.shared with _ | next
      · rfl
      · simp only [ih next c.lower]
    | _ => rfl

/-- A delivery writes to no slot outside the group of the slot that it goes to. -/
theorem inFirst_of_mem_writes_ran (hq : G.Quiet s) {c : Call} {x : Write}
    (hx : x ∈ (ran s name c).flatMap Event.writes) :
    G.inFirst (.slot x.slot) = G.inFirst (.slot name) := by
  rw [Event.slot_of_mem_flatMap_writes hx]
  by_contra hne
  unfold ran at hx
  rcases hs : s.get name with _ | cb
  · simp [hs] at hx
  · have hl := hq name cb hs (Ne.symm hne)
    rw [hs] at hx
    simp only [ranAt_of_isLocal s _ hl, List.flatMap_cons, List.flatMap_nil, List.append_nil] at hx
    cases cb <;> simp [Event.writes, Callback.isLocal] at hx hl

/-- What runs when an event is delivered within the first group is decided by the first group. -/
theorem ran_slots (hq : G.Quiet s) (hn : G.inFirst (.slot name) = true) (c : Call) :
    ran (G.slots s) name c = ran s name c := by
  have hg : (G.slots s).get name = s.get name := by
    rw [Split.get_slots, if_pos hn]
  unfold ran
  rw [hg]
  rcases hs : s.get name with _ | cb
  · rfl
  · by_cases hsh : G.inFirst (.slot .shared) = true
    · have h : (G.slots s).shared = s.shared := if_pos hsh
      exact ranAt_congr h _ cb c
    · have hl := hq name cb hs (by rw [hn]; exact fun h => hsh h.symm)
      simp only [ranAt_of_isLocal _ _ hl]

theorem inFirst_of_mem_writes_ranAll {x : Write} : ∀ (cs : List Call) {s : Slots}, G.Quiet s →
    x ∈ (ranAll name s cs).flatMap Event.writes → G.inFirst (.slot x.slot) = G.inFirst (.slot name)
  | [], _, _, hx => by simp [ranAll] at hx
  | c :: cs, s, hq, hx => by
    rw [ranAll, List.flatMap_append, List.mem_append] at hx
    rcases hx with hx | hx
    · exact inFirst_of_mem_writes_ran hq hx
    · exact inFirst_of_mem_writes_ranAll cs (hq.write_events _) hx

theorem ranAll_slots (hn : G.inFirst (.slot name) = true) : ∀ (cs : List Call) {s : Slots},
    G.Quiet s → ranAll name (G.slots s) cs = ranAll name s cs
  | [], _, _ => rfl
  | c :: cs, s, hq => by
    have hw : ∀ x ∈ (ran s name c).flatMap Event.writes, G.inFirst (.slot x.slot) = true :=
      fun x hx => (inFirst_of_mem_writes_ran hq hx).trans hn
    rw [ranAll, ranAll, ran_slots hq hn, ← Split.slots_write_of_first _ _ hw,
      ranAll_slots hn cs (hq.write_events _)]

end Delivery

/-! ### Processes -/

/-- What the first group sees of a process. -/
def World.restrict (w : World) (G : Split) : World :=
  { w with
    slots := G.slots w.slots
    libraries := fun id =>
      if G.inFirst (.library id) then w.libraries id else .fresh .complete .unresolved none }

def Outcome.restrict {α : Type} (o : Outcome α) (G : Split) : Outcome α :=
  { o with world := o.world.restrict G }

namespace World

variable {G : Split} (w : World) {name : SlotName} {id : LibraryId} {g : Gateway}

theorem library_restrict (h : G.inFirst (.library g.library) = true) :
    (w.restrict G).library g = w.library g :=
  if_pos h

theorem get_slots_restrict (h : G.inFirst (.slot name) = true) :
    (w.restrict G).slots.get name = w.slots.get name := by
  show (G.slots w.slots).get name = _
  rw [Split.get_slots, if_pos h]

theorem restrict_put_of_first (h : G.inFirst (.slot name) = true) (cb : Option Callback) :
    (w.put name cb).restrict G = (w.restrict G).put name cb := by
  have hs := Split.slots_put_of_first h w.slots cb
  simp only [restrict, put, hs]

theorem restrict_put_of_second (h : G.inFirst (.slot name) = false) (cb : Option Callback) :
    (w.put name cb).restrict G = w.restrict G := by
  have hs := Split.slots_put_of_second h w.slots cb
  simp only [restrict, put, hs]

theorem restrict_setLibrary_of_first (h : G.inFirst (.library id) = true) (lib : Library) :
    (w.setLibrary id lib).restrict G = (w.restrict G).setLibrary id lib := by
  simp only [restrict, setLibrary, World.mk.injEq, true_and, and_true]
  funext i
  by_cases hi : i = id
  · rw [if_pos hi, if_pos hi, hi, if_pos h]
  · rw [if_neg hi, if_neg hi]

theorem restrict_setLibrary_of_second (h : G.inFirst (.library id) = false) (lib : Library) :
    (w.setLibrary id lib).restrict G = w.restrict G := by
  simp only [restrict, setLibrary, World.mk.injEq, true_and, and_true]
  funext i
  by_cases hi : i = id
  · rw [hi, h, if_neg Bool.false_ne_true, if_neg Bool.false_ne_true]
  · rw [if_neg hi]

section Ran

variable {α : Type} (answer : α) {ran : List Event}

theorem restrict_ofRan_of_first
    (h : ∀ x ∈ ran.flatMap Event.writes, G.inFirst (.slot x.slot) = true) :
    (Outcome.ofRan answer w ran).restrict G = Outcome.ofRan answer (w.restrict G) ran := by
  have hs := Split.slots_write_of_first _ w.slots h
  simp only [Outcome.restrict, Outcome.ofRan, Outcome.ofDelivery, Delivery.ofRan, restrict, hs]

theorem restrict_ofRan_of_second
    (h : ∀ x ∈ ran.flatMap Event.writes, G.inFirst (.slot x.slot) = false) :
    (Outcome.ofRan answer w ran).world.restrict G = w.restrict G := by
  have hs := Split.slots_write_of_second _ w.slots h
  simp only [Outcome.ofRan, Outcome.ofDelivery, Delivery.ofRan, restrict, hs]

end Ran

theorem restrict_deliver_of_first (hq : G.Quiet w.slots) (h : G.inFirst (.slot name) = true)
    (c : Call) : (w.deliver name c).restrict G = (w.restrict G).deliver name c := by
  rw [deliver_eq, deliver_eq, restrict_ofRan_of_first]
  · rw [show (w.restrict G).slots = G.slots w.slots from rfl, Delivery.ran_slots hq h]
  · exact fun x hx => (Delivery.inFirst_of_mem_writes_ran hq hx).trans h

theorem restrict_deliver_of_second (hq : G.Quiet w.slots) (h : G.inFirst (.slot name) = false)
    (c : Call) : (w.deliver name c).world.restrict G = w.restrict G := by
  rw [deliver_eq, restrict_ofRan_of_second]
  exact fun x hx => (Delivery.inFirst_of_mem_writes_ran hq hx).trans h

section Connect

variable {k : Connection}

theorem objection?_restrict (h : G.inFirst (.library k.library) = true) :
    (w.restrict G).objection? k = w.objection? k := by
  unfold objection?
  rw [library_restrict w h]

theorem ranConnecting_restrict (hq : G.Quiet (w.slots.put k.route.slot k.callback))
    (hs : G.inFirst (.slot k.route.slot) = true) (hl : G.inFirst (.library k.library) = true) :
    (w.restrict G).ranConnecting k = w.ranConnecting k := by
  have hp : (w.restrict G).slots.put k.route.slot k.callback =
      G.slots (w.slots.put k.route.slot k.callback) :=
    (Split.slots_put_of_first hs w.slots k.callback).symm
  unfold ranConnecting
  rw [objection?_restrict w hl, library_restrict w hl, hp, Delivery.ranAll_slots hs _ hq]

theorem inFirst_of_mem_writes_ranConnecting
    (hq : G.Quiet (w.slots.put k.route.slot k.callback)) {x : Write}
    (hx : x ∈ (w.ranConnecting k).flatMap Event.writes) :
    G.inFirst (.slot x.slot) = G.inFirst (.slot k.route.slot) := by
  unfold ranConnecting at hx
  split at hx
  · simp at hx
  · exact Delivery.inFirst_of_mem_writes_ranAll _ hq hx

theorem restrict_connect_of_first (hq : G.Quiet (w.slots.put k.route.slot k.callback))
    (hs : G.inFirst (.slot k.route.slot) = true) (hl : G.inFirst (.library k.library) = true) :
    (w.connect k.route k.level k.callback).restrict G =
      (w.restrict G).connect k.route k.level k.callback := by
  have ho := objection?_restrict w hl
  rcases h : w.objection? k with _ | fault
  · rw [connect_of_no_objection w h, connect_of_no_objection _ (ho.trans h),
      ranConnecting_restrict w hq hs hl, library_restrict w hl, ← restrict_put_of_first w hs,
      ← restrict_setLibrary_of_first _ hl, ← restrict_ofRan_of_first]
    · rfl
    · exact fun x hx => (inFirst_of_mem_writes_ranConnecting w hq hx).trans hs
  · rw [connect_of_objection w h, connect_of_objection _ (ho.trans h), ← restrict_put_of_first w hs]
    rfl

theorem restrict_connect_of_second (hq : G.Quiet (w.slots.put k.route.slot k.callback))
    (hs : G.inFirst (.slot k.route.slot) = false) (hl : G.inFirst (.library k.library) = false) :
    (w.connect k.route k.level k.callback).world.restrict G = w.restrict G := by
  rcases h : w.objection? k with _ | fault
  · rw [connect_of_no_objection w h]
    refine (restrict_ofRan_of_second _ (Except.ok () : Except Fault Unit) fun x hx => ?_).trans ?_
    · exact (inFirst_of_mem_writes_ranConnecting w hq hx).trans hs
    · rw [restrict_setLibrary_of_second _ hl, restrict_put_of_second w hs]
  · rw [connect_of_objection w h]
    exact restrict_put_of_second w hs k.callback

end Connect

end World

end Switchboard
