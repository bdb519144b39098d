import Mathlib.Logic.Function.Iterate
import Switchboard.Proofs.Routing

/-!
# Events that are handed on

A delivery reads its slot once and calls what it finds there. Of the callbacks only one hands its
event on, to the shared slot and one level lower, and it does not do so at debug or below. That is
all that a delivery consists of (`Delivery.Unfolds`), and it comes to an end by itself: each event
that is handed on is one level below the one before, and no level wraps around on the way
(`Level.toInt_pred_iterate`). So the events of a delivery are the one that it began with, taken down
level by level (`calls_noted_ran`), and where the shared slot holds the callback that hands events
on they go all the way down to debug (`ran_shared_nest`).
-/

namespace Switchboard

namespace Level

variable {l : Level}

theorem toInt_pred (h : 0 < l.raw.toInt) : l.pred.raw.toInt = l.raw.toInt - 1 := by
  have hh := l.raw.toInt_lt
  show (l.raw - 1).toInt = l.raw.toInt - (1 : Int8).toInt
  rw [Int8.toInt_sub, Int.bmod_eq_of_le]
  all_goals simp only [Int8.toInt_one]
  all_goals omega

theorem depth_eq_succ (h : 0 < l.raw.toInt) : l.depth = l.pred.depth + 1 := by
  rw [depth, depth, toInt_pred h]
  omega

theorem depth_eq_zero (h : l.raw.toInt ≤ 0) : l.depth = 0 :=
  Int.toNat_of_nonpos h

/-- Down to debug, levels are counted without wrapping around. -/
theorem toInt_pred_iterate : ∀ (n : Nat) {l : Level}, n ≤ l.depth →
    (pred^[n] l).raw.toInt = l.raw.toInt - n
  | 0, _, _ => (Int.sub_zero _).symm
  | n + 1, l, h => by
    have hl : 0 < l.raw.toInt := by
      rw [depth] at h
      omega
    rw [depth_eq_succ hl] at h
    rw [Function.iterate_succ_apply, toInt_pred_iterate n (by omega), toInt_pred hl]
    omega

end Level

namespace Call

/-- An event some levels lower. -/
def descend (c : Call) (n : Nat) : Call :=
  { c with level := Level.pred^[n] c.level }

theorem admits_of_mem_records {filter : Filter} {captured : Option Domains} {c : Call} {r : Record}
    (h : r ∈ c.records filter captured) : filter.admits r.severity = true := by
  unfold records at h
  split at h
  · rename_i he
    rw [List.mem_singleton.1 h]
    exact (Bool.and_eq_true_iff.1 he).1
  · cases h

end Call

theorem Call.length_records_le (filter : Filter) (captured : Option Domains) (c : Call) :
    (c.records filter captured).length ≤ 1 := by
  unfold Call.records
  split
  · exact le_rfl
  · exact Nat.zero_le 1

/-- Writes to the shared slot leave the other slots alone. -/
theorem Slots.write_of_shared {s : Slots} {ws : List Write} (h : ∀ w ∈ ws, w.slot = .shared) :
    s.write ws = { s with shared := (s.write ws).shared } := by
  have hleft : (s.write ws).get .left = s.get .left :=
    get_write_of_forall_ne ws s fun w hw => by rw [h w hw]; exact nofun
  have hright : (s.write ws).get .right = s.get .right :=
    get_write_of_forall_ne ws s fun w hw => by rw [h w hw]; exact nofun
  exact congrArg₂ (Slots.mk _) hleft hright

/-- Whether a callback hands on the event that it is given. -/
def Event.isHandedOn (e : Event) : Bool :=
  e.callback == .nest && decide (0 < e.call.level.raw.toInt)

namespace Delivery

/-- What a callback does by itself, when it hands nothing on. -/
def alone (filter : Filter) (captured : Option Domains) (slots : Slots) (cb : Callback) (c : Call) :
    Delivery :=
  match cb with
  | .first | .second | .nest => ⟨slots, [⟨cb, c⟩], []⟩
  | .clear => ⟨slots.put .shared none, [⟨cb, c⟩], []⟩
  | .replace => ⟨slots.put .shared (some .first), [⟨cb, c⟩], []⟩
  | .logger => ⟨slots, [], c.records filter captured⟩

/-- How a delivery unfolds: a slot is read, and where it is not empty the callback that was found is
called; if it hands the event on, that is a delivery to the shared slot, which is read in its turn.
The slots that are read are listed, and what comes of it. -/
inductive Unfolds (filter : Filter) (captured : Option Domains) (slots : Slots) :
    SlotName → Call → List SlotName → Delivery → Prop where
  | empty {name : SlotName} {c : Call} (h : slots.get name = none) :
    Unfolds filter captured slots name c [name] (idle slots)
  | alone {name : SlotName} {c : Call} {cb : Callback} (h : slots.get name = some cb)
    (hl : cb = .nest → c.level.raw.toInt ≤ 0) :
    Unfolds filter captured slots name c [name] (alone filter captured slots cb c)
  | nest {name : SlotName} {c : Call} {reads : List SlotName} {d : Delivery}
    (h : slots.get name = some .nest) (hl : 0 < c.level.raw.toInt)
    (hd : Unfolds filter captured slots .shared c.lower reads d) :
    Unfolds filter captured slots name c (name :: reads)
      { d with events := ⟨.nest, c⟩ :: d.events }

variable (filter : Filter) (captured : Option Domains) (slots : Slots)

/-! ### The callbacks that run -/

section Running

variable {slots : Slots} {name : SlotName} {c : Call}

theorem ran_of_get_none (h : slots.get name = none) : ran slots name c = [] := by
  simp only [ran, h]

theorem ran_of_ne_nest {cb : Callback} (h : slots.get name = some cb) (hcb : cb ≠ .nest) :
    ran slots name c = [⟨cb, c⟩] := by
  simp only [ran, h]
  cases cb with
  | nest => exact absurd rfl hcb
  | _ => cases c.level.depth <;> rfl

theorem ran_nest_of_nonpos (h : slots.get name = some .nest) (hl : c.level.raw.toInt ≤ 0) :
    ran slots name c = [⟨.nest, c⟩] := by
  simp only [ran, h, Level.depth_eq_zero hl]
  rfl

/-- What a callback hands on runs as it would if it had been delivered to the shared slot. -/
theorem ran_nest_of_pos (h : slots.get name = some .nest) (hl : 0 < c.level.raw.toInt) :
    ran slots name c = ⟨.nest, c⟩ :: ran slots .shared c.lower := by
  simp only [ran, h, Level.depth_eq_succ hl]
  rfl

/-- The events go down to debug where the shared slot itself hands them on. -/
theorem ran_shared_nest (h : slots.get .shared = some .nest) : ∀ (n : Nat) {c : Call},
    c.level.depth = n →
      ran slots .shared c = ((List.range (n + 1)).map c.descend).map (⟨.nest, ·⟩)
  | 0, c, hn => ran_nest_of_nonpos h (by rw [Level.depth] at hn; omega)
  | n + 1, c, hn => by
    have hl : 0 < c.level.raw.toInt := by
      rw [Level.depth] at hn
      omega
    have hn' : c.lower.level.depth = n := by
      rw [Level.depth_eq_succ hl] at hn
      exact Nat.succ.inj hn
    have hrest : ((List.range (n + 1)).map Nat.succ).map c.descend =
        (List.range (n + 1)).map c.lower.descend := List.map_map
    rw [ran_nest_of_pos h hl, ran_shared_nest h n hn', List.range_succ_eq_map (n := n + 1),
      List.map_cons, hrest]
    rfl

/-- One callback at most is found by a delivery, and it runs alone unless it hands its event on. -/
theorem ran_cases (slots : Slots) (name : SlotName) (c : Call) :
    slots.get name = none ∧ ran slots name c = [] ∨
      (∃ cb, slots.get name = some cb ∧ (cb = .nest → c.level.raw.toInt ≤ 0) ∧
        ran slots name c = [⟨cb, c⟩]) ∨
      slots.get name = some .nest ∧ 0 < c.level.raw.toInt ∧
        ran slots name c = ⟨.nest, c⟩ :: ran slots .shared c.lower := by
  rcases h : slots.get name with _ | cb
  · exact .inl ⟨rfl, ran_of_get_none h⟩
  by_cases hcb : cb = .nest
  · subst hcb
    by_cases hl : c.level.raw.toInt ≤ 0
    · exact .inr (.inl ⟨.nest, rfl, fun _ => hl, ran_nest_of_nonpos h hl⟩)
    · exact .inr (.inr ⟨rfl, Int.not_le.1 hl, ran_nest_of_pos h (Int.not_le.1 hl)⟩)
  · exact .inr (.inl ⟨cb, rfl, fun h => absurd h hcb, ran_of_ne_nest h hcb⟩)

end Running

/-- The callbacks that take note are given the event of the delivery, level by level. -/
theorem calls_noted_ran (name : SlotName) (c : Call) :
    ∃ n ≤ c.level.depth + 1,
      ((ran slots name c).filter Event.isNoted).map Event.call = (List.range n).map c.descend := by
  obtain ⟨-, h⟩ | ⟨cb, -, -, h⟩ | ⟨-, hl, h⟩ := ran_cases slots name c
  · exact ⟨0, Nat.zero_le _, by rw [h]; rfl⟩
  · rw [h]
    cases cb with
    | logger => exact ⟨0, Nat.zero_le _, rfl⟩
    | _ => exact ⟨1, Nat.le_add_left 1 _, rfl⟩
  · have hdepth : c.level.depth = c.lower.level.depth + 1 := Level.depth_eq_succ hl
    obtain ⟨n, hn, hcalls⟩ := calls_noted_ran .shared c.lower
    refine ⟨n + 1, by omega, ?_⟩
    rw [h, List.filter_cons_of_pos rfl, List.map_cons, hcalls, List.range_succ_eq_map,
      List.map_cons, List.map_map]
    rfl
termination_by c.level.depth

/-- The slots that a delivery reads: its own, and the shared one for each event handed on. -/
def reads (name : SlotName) (c : Call) : List SlotName :=
  name :: ((ran slots name c).filter Event.isHandedOn).map fun _ => .shared

theorem ofRan_singleton (cb : Callback) (c : Call) :
    ofRan filter captured slots [⟨cb, c⟩] = alone filter captured slots cb c := by
  cases cb with
  | logger => exact ofRan_logger filter captured slots c
  | _ => rfl

theorem ofRan_map_nest : ∀ cs : List Call,
    ofRan filter captured slots (cs.map (⟨.nest, ·⟩)) = ⟨slots, cs.map (⟨.nest, ·⟩), []⟩
  | [] => rfl
  | c :: cs => congrArg (fun d => { d with events := ⟨.nest, c⟩ :: d.events }) (ofRan_map_nest cs)

section Reading

variable {slots : Slots} {name : SlotName} {c : Call}

theorem reads_of_get_none (h : slots.get name = none) : reads slots name c = [name] := by
  rw [reads, ran_of_get_none h]
  rfl

theorem reads_of_alone {cb : Callback} (h : ran slots name c = [⟨cb, c⟩])
    (hl : cb = .nest → c.level.raw.toInt ≤ 0) : reads slots name c = [name] := by
  have hn : Event.isHandedOn ⟨cb, c⟩ = false := by
    by_cases hcb : cb = .nest
    · simp [Event.isHandedOn, hcb, hl hcb]
    · simp [Event.isHandedOn, hcb]
  rw [reads, h, List.filter_cons_of_neg (by simp [hn])]
  rfl

theorem reads_nest (h : slots.get name = some .nest) (hl : 0 < c.level.raw.toInt) :
    reads slots name c = name :: reads slots .shared c.lower := by
  have hn : Event.isHandedOn ⟨.nest, c⟩ = true := by simp [Event.isHandedOn, hl]
  rw [reads, ran_nest_of_pos h hl, List.filter_cons_of_pos hn]
  rfl

end Reading

/-- A delivery unfolds, and the callbacks run as they are listed. -/
theorem unfolds_ran (name : SlotName) (c : Call) :
    Unfolds filter captured slots name c (reads slots name c)
      (ofRan filter captured slots (ran slots name c)) := by
  obtain ⟨hs, h⟩ | ⟨cb, hs, hl, h⟩ | ⟨hs, hl, h⟩ := ran_cases slots name c
  · rw [reads_of_get_none hs, h]
    exact .empty hs
  · rw [reads_of_alone h hl, h, ofRan_singleton]
    exact .alone hs hl
  · -- What is handed on is one level lower, and by this the recursion ends.
    have hdepth : c.level.depth = c.lower.level.depth + 1 := Level.depth_eq_succ hl
    rw [reads_nest hs hl, h]
    exact .nest hs hl (unfolds_ran .shared c.lower)
termination_by c.level.depth

/-- It unfolds in no other way. -/
theorem Unfolds.unique {filter : Filter} {captured : Option Domains} {slots : Slots}
    {name : SlotName} {c : Call} {rs : List SlotName} {d : Delivery}
    (h : Unfolds filter captured slots name c rs d) :
    rs = reads slots name c ∧ d = ofRan filter captured slots (ran slots name c) := by
  induction h with
  | empty h =>
    rw [reads_of_get_none h, ran_of_get_none h]
    exact ⟨rfl, rfl⟩
  | @alone name c cb h hl =>
    obtain ⟨hs, -⟩ | ⟨cb', hs, -, hran⟩ | ⟨hs, hl', -⟩ := ran_cases slots name c
    · cases h.symm.trans hs
    · obtain rfl := Option.some.inj (h.symm.trans hs)
      rw [reads_of_alone hran hl, hran, ofRan_singleton]
      exact ⟨rfl, rfl⟩
    · obtain rfl := Option.some.inj (h.symm.trans hs)
      exact absurd hl' (Int.not_lt.2 (hl rfl))
  | nest h hl hd ih =>
    rw [reads_nest h hl, ran_nest_of_pos h hl, ih.1, ih.2]
    exact ⟨rfl, rfl⟩

/-- A delivery is what comes of its unfolding. -/
theorem unfolds_iff {name : SlotName} {c : Call} {rs : List SlotName} {d : Delivery} :
    Unfolds filter captured slots name c rs d ↔
      rs = reads slots name c ∧ d = deliver filter captured slots name c := by
  rw [deliver_eq]
  constructor
  · exact Unfolds.unique
  · rintro ⟨rfl, rfl⟩
    exact unfolds_ran filter captured slots name c

theorem filter_isHandedOn_noted (ran : List Event) :
    (ran.filter Event.isNoted).filter Event.isHandedOn = ran.filter Event.isHandedOn := by
  rw [List.filter_filter]
  refine List.filter_congr fun e _ => ?_
  obtain ⟨cb, c⟩ := e
  cases cb <;> simp [Event.isHandedOn, Event.isNoted]

end Delivery

namespace World

variable (w : World)

/-- Where a step does what its callbacks do, no record of theirs is held back that was made. -/
theorem step_of_perform {s : Step} {answer : Answer} {ran : List Event}
    (h : w.perform s = .ofRan answer w ran) : w.step s = .ofRan answer w ran := by
  have hkept : ∀ r ∈ (Delivery.ofRan w.filter w.captured w.slots ran).records,
      w.filter.admits r.severity = true := by
    intro r hr
    obtain ⟨c, -, hc⟩ := List.mem_flatMap.1 hr
    exact Call.admits_of_mem_records hc
  simp only [step, h, Outcome.ofRan, Outcome.ofDelivery, List.filter_eq_self.2 hkept]

theorem step_deliver_ran {slot : SlotName} {c : Call} {ran : List Event}
    (h : Delivery.ran w.slots slot c.wire = ran) :
    w.step (.deliver slot c) = .ofRan .done w ran := by
  refine step_of_perform w ?_
  rw [perform, deliver_eq, h]
  rfl

theorem step_deliver (slot : SlotName) (c : Call) :
    w.step (.deliver slot c) =
      .ofDelivery .done w (.deliver w.filter w.captured w.slots slot c.wire) := by
  rw [step_deliver_ran w rfl, Delivery.deliver_eq]
  rfl

/-- Delivering an event reads the slot once and calls what is found there, and it ends. Nothing
happens where the slot is empty; a callback that takes note is given the event, and one that empties
or replaces what the shared slot holds has done so afterwards, though it was called from there; the
logger makes one record at most. What hands events on does so down to debug if it is the shared slot
that holds it, and else once, which is the same as a delivery to the shared slot one level lower. In
every case the events differ from the first in their level alone, which goes down by one from each
to the next without wrapping around, and nothing changes but the shared slot. -/
theorem deliver_descends (w : World) (slot : SlotName) (c : Call) :
    let o := w.step (.deliver slot c)
    let lower := w.step (.deliver .shared c.lower)
    let held := w.slots.get slot
    let level := c.level.raw.toInt
    w.step (.enter slot c) = o ∧
      (∀ reads d, Delivery.Unfolds w.filter w.captured w.slots slot c.wire reads d ↔
        reads = slot :: (o.events.filter Event.isHandedOn).map (fun _ => .shared) ∧
          d = ⟨o.world.slots, o.events, o.records⟩) ∧
      (held = none → o = ⟨.done, w, [], []⟩) ∧
      (∀ cb, cb = .first ∨ cb = .second → held = some cb → o = ⟨.done, w, [⟨cb, c.wire⟩], []⟩) ∧
      (held = some .clear → o = ⟨.done, w.put .shared none, [⟨.clear, c.wire⟩], []⟩) ∧
      (held = some .replace →
        o = ⟨.done, w.put .shared (some .first), [⟨.replace, c.wire⟩], []⟩) ∧
      (held = some .logger → o.world = w ∧ o.events = [] ∧ o.records.length ≤ 1) ∧
      (held = some .nest →
        (slot = .shared → o = ⟨.done, w,
          ((List.range (level.toNat + 1)).map c.wire.descend).map (⟨.nest, ·⟩), []⟩) ∧
        (slot ≠ .shared →
          (level ≤ 0 → o = ⟨.done, w, [⟨.nest, c.wire⟩], []⟩) ∧
          (0 < level → o = { lower with events := ⟨.nest, c.wire⟩ :: lower.events }))) ∧
      o.events.length ≤ level.toNat + 1 ∧
      (∀ (n : Nat) (e : Event), o.events[n]? = some e → e.call.domain = c.domain ∧
        e.call.message = c.message.map (·.takeWhile (· != 0)) ∧
        e.call.level.raw.toInt = level - n) ∧
      o.world = { w with slots := { w.slots with shared := o.world.slots.shared } } := by
  intro o lower held level
  have hran : ∀ {slot : SlotName} {c : Call} {ran : List Event},
      Delivery.ran w.slots slot c.wire = ran → w.step (.deliver slot c) = .ofRan .done w ran :=
    fun h => step_deliver_ran w h
  have ho : o = .ofRan .done w (Delivery.ran w.slots slot c.wire) := hran rfl
  obtain ⟨count, hcount, hcalls⟩ := Delivery.calls_noted_ran w.slots slot c.wire
  have hevents : o.events.map Event.call = (List.range count).map c.wire.descend := by
    rw [ho]
    exact hcalls
  have hlength : o.events.length = count := by
    have h := congrArg List.length hevents
    rwa [List.length_map, List.length_map, List.length_range] at h
  refine ⟨rfl, fun reads d => ?_, fun h => step_deliver_of_empty w h,
    fun cb hcb h => step_deliver_of_first_or_second w hcb h,
    fun h => hran (Delivery.ran_of_ne_nest h nofun),
    fun h => hran (Delivery.ran_of_ne_nest h nofun), fun h => ?_,
    fun h => ⟨?_, fun hs => ⟨fun hl => ?_, fun hl => ?_⟩⟩, ?_, fun n e he => ?_, ?_⟩
  · rw [Delivery.unfolds_iff, Delivery.reads]
    have hreads : o.events.filter Event.isHandedOn =
        (Delivery.ran w.slots slot c.wire).filter Event.isHandedOn := by
      rw [ho]
      exact Delivery.filter_isHandedOn_noted _
    rw [hreads, show o = _ from step_deliver w slot c]
    rfl
  · rw [show o = _ from hran (Delivery.ran_of_ne_nest h nofun)]
    refine ⟨rfl, rfl, ?_⟩
    show (Delivery.ofRan w.filter w.captured w.slots [⟨.logger, c.wire⟩]).records.length ≤ 1
    rw [Delivery.ofRan_logger]
    exact Call.length_records_le w.filter w.captured c.wire
  · rintro rfl
    rw [show o = _ from hran (Delivery.ran_shared_nest h level.toNat rfl), Outcome.ofRan,
      Delivery.ofRan_map_nest]
    rfl
  · exact hran (Delivery.ran_nest_of_nonpos h hl)
  · rw [show o = _ from hran (Delivery.ran_nest_of_pos h hl)]
    rw [show lower = _ from hran rfl]
    rfl
  · rw [hlength]
    exact hcount
  · obtain ⟨hn, -⟩ := List.getElem?_eq_some_iff.1 he
    have hcall := congrArg (·[n]?) hevents
    simp only [List.getElem?_map, he, List.getElem?_range (hlength ▸ hn), Option.map_some] at hcall
    rw [Option.some.inj hcall]
    exact ⟨rfl, rfl, Level.toInt_pred_iterate n (by omega)⟩
  · rw [ho]
    exact congrArg (fun s => { w with slots := s })
      (Slots.write_of_shared fun _ => Event.slot_of_mem_flatMap_writes)

/-- An event is handed on from a slot of its own to a callback that replaces itself. At the lowest
level of all an event is not handed on. -/
theorem deliver_descends_once :
    let w := (opened .stock []).after [.put .left (some .nest), .put .shared (some .replace)]
    let c : Call := ⟨⟨16⟩, .warning, some [0x61, 0, 0x62]⟩
    let lowest : Call := ⟨⟨16⟩, ⟨-128⟩, none⟩
    w.slots.get .left = some .nest ∧ w.slots.get .shared = some .replace ∧
      w.step (.deliver .left c) = ⟨.done, w.put .shared (some .first),
        [⟨.nest, ⟨⟨16⟩, .warning, some [0x61]⟩⟩, ⟨.replace, ⟨⟨16⟩, .info, some [0x61]⟩⟩], []⟩ ∧
      w.step (.deliver .left lowest) = ⟨.done, w, [⟨.nest, lowest⟩], []⟩ := by
  intro w c lowest
  have hl : w.slots.get .left = some .nest := rfl
  have hs : w.slots.get .shared = some .replace := rfl
  obtain ⟨-, -, -, -, -, -, -, hnest, -⟩ := deliver_descends w .left c
  obtain ⟨-, -, -, -, -, hreplace, -⟩ := deliver_descends w .shared c.lower
  obtain ⟨-, -, -, -, -, -, -, hlast, -⟩ := deliver_descends w .left lowest
  have hwire : c.wire = ⟨⟨16⟩, .warning, some [0x61]⟩ := by decide
  have hlower : c.lower.wire = ⟨⟨16⟩, .info, some [0x61]⟩ := by decide
  refine ⟨hl, hs, ?_, ((hlast hl).2 nofun).1 (by decide)⟩
  rw [((hnest hl).2 nofun).2 (by decide), hreplace hs, hwire, hlower]

end World

end Switchboard
