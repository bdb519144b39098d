import Switchboard.Proofs.Runs

/-!
# What a slot holds

A slot holds what was written to it last. The writes of a run are seen from outside: from the steps,
which say what they put where (`Step.writes`), and from the events that callbacks took note of,
since each callback that writes takes note first (`Event.writes`). The two are told in the order in
which they happen (`writesIn`): a route's slot is filled before its library can log anything.
-/

namespace Switchboard

/-- The last of some writes to a slot, if there is one. -/
def lastWrite? (name : SlotName) (ws : List Write) : Option Write :=
  (ws.filter fun w => w.slot = name).getLast?

theorem lastWrite?_append (name : SlotName) (a b : List Write) :
    lastWrite? name (a ++ b) = (lastWrite? name b).or (lastWrite? name a) := by
  simp only [lastWrite?, List.filter_append, List.getLast?_append]

theorem lastWrite?_singleton_self (w : Write) : lastWrite? w.slot [w] = some w := by
  simp [lastWrite?]

theorem lastWrite?_eq_none {name : SlotName} {ws : List Write} (h : ∀ w ∈ ws, w.slot ≠ name) :
    lastWrite? name ws = none := by
  rw [lastWrite?, List.getLast?_eq_none_iff, List.filter_eq_nil_iff]
  intro w hw
  simpa using h w hw

/-- Writing leaves in a slot what was written to it last, or what it held if nothing was. -/
theorem Slots.get_write (s : Slots) (name : SlotName) (ws : List Write) :
    (s.write ws).get name =
      match lastWrite? name ws with
      | some w => w.callback
      | none => s.get name := by
  induction ws generalizing s with
  | nil => rfl
  | cons w ws ih =>
    rw [write_cons, ih, ← List.singleton_append, lastWrite?_append]
    rcases lastWrite? name ws with _ | last
    · by_cases h : w.slot = name
      · subst h
        rw [lastWrite?_singleton_self]
        exact get_put_self s w.slot w.callback
      · rw [lastWrite?_eq_none (by simpa using h)]
        exact get_put_of_ne s (Ne.symm h) w.callback
    · rfl

/-- What is written to the slots in a run, the earliest first: by each step itself, and then by the
callbacks that take note of an event during the step. Whether attaching the log once has been
`tried` before is seen from the steps. -/
def writesIn (gateways : List Gateway) : Bool → List (Step × List Event) → List Write
  | _, [] => []
  | tried, (s, events) :: rest =>
    s.writes gateways tried ++ events.flatMap Event.writes ++
      writesIn gateways (tried || s.triesOnce gateways) rest

namespace World

/-- The steps of a run, each with the events that callbacks took note of. -/
def history (w : World) (steps : List Step) : List (Step × List Event) :=
  steps.zip ((w.run steps).map Outcome.events)

theorem history_cons (w : World) (s : Step) (steps : List Step) :
    w.history (s :: steps) = (s, (w.step s).events) :: (w.step s).world.history steps :=
  rfl

theorem history_take : ∀ (n : Nat) (w : World) (steps : List Step),
    w.history (steps.take n) = (w.history steps).take n
  | 0, _, _ => rfl
  | _ + 1, _, [] => rfl
  | n + 1, w, s :: steps => by
    rw [List.take_succ_cons, history_cons, history_cons, history_take n, List.take_succ_cons]

/-- A run writes what its history tells. -/
theorem slots_after : ∀ (steps : List Step) (w : World),
    (w.after steps).slots =
      w.slots.write (writesIn w.gateways w.attached.isSome (w.history steps))
  | [], _ => rfl
  | s :: steps, w => by
    rw [after_cons, slots_after steps, step_slots, step_gateways, step_attached_isSome,
      history_cons, writesIn, ← Slots.write_append]

/-- Every slot holds what was written to it last, and is empty if nothing was; and that is what it
shows. Events write to the shared slot only. -/
theorem slot_holds_last_write (files : FileTree) (specs : List GatewaySpec) (steps : List Step)
    (n : Nat) (name : SlotName) :
    let start := opened files specs
    let w := start.after (steps.take n)
    let ws := writesIn start.gateways false ((start.history steps).take n)
    let held := (lastWrite? name ws).bind Write.callback
    w.slots.get name = held ∧
      (w.step (.look name)).answer = .held held held.isSome (w.slots.inspect? name) ∧
      (∀ i g, start.gateways[i]? = some g →
        (w.step (.inspectRoute ⟨i, name⟩)).answer = .route held.isSome) ∧
      (∀ s, ∀ e ∈ (w.step s).events, ∀ x ∈ e.writes, x.slot = .shared) ∧
      (name ≠ .shared → ∀ s, (∀ x ∈ s.writes start.gateways w.attached.isSome, x.slot ≠ name) →
        (w.step s).world.slots.get name = held) := by
  intro start w ws held
  have hfresh := fresh_opened files specs
  have hheld : w.slots.get name = held := by
    have hs : w.slots = Slots.empty.write ws := by
      show (start.after (steps.take n)).slots = _
      rw [slots_after, history_take, hfresh.slots, hfresh.attached]
      rfl
    have hempty : Slots.empty.get name = none := by cases name <;> rfl
    rw [hs, Slots.get_write, hempty]
    show _ = (lastWrite? name ws).bind Write.callback
    rcases lastWrite? name ws with _ | x <;> rfl
  refine ⟨hheld, ?_, ?_, ?_, ?_⟩
  · rw [← hheld]
    rfl
  · intro i g hg
    have hg' : w.gateways[i]? = some g := by rw [after_gateways, hg]
    rw [← hheld]
    simp only [step, perform, withRoute, withGateway, hg']
    rfl
  · intro s e _ x hx
    exact Event.slot_of_mem_writes hx
  · intro hname s hs
    rw [step_slots, after_gateways, Slots.write_append, Slots.get_write_of_forall_ne,
      Slots.get_write_of_forall_ne _ _ hs, hheld]
    intro x hx
    rw [Event.slot_of_mem_flatMap_writes hx]
    exact hname.symm

/-- An event handed on from one slot to another empties the shared slot, and leaves the slot that it
came through as it is. -/
theorem slot_holds_last_write_of_nested_event :
    let start := opened .stock [.inner .unresolved none]
    let steps : List Step := [.put .left (some .nest), .connect ⟨0, .shared⟩ .info (some .clear)]
    let event : Step := .enter .left ⟨⟨16⟩, .info, none⟩
    start.gateways[0]? = some ⟨.inner, .own 0⟩ ∧
      ((start.after steps).step (.inspectRoute ⟨0, .left⟩)).answer = .route true ∧
      SlotName.left ≠ .shared ∧
      (∀ x ∈ event.writes start.gateways (start.after steps).attached.isSome, x.slot ≠ .left) ∧
      ((start.after steps).step event).world.slots.get .left = some .nest ∧
      (start.after (steps ++ [event])).slots.get .shared = none := by
  intro start steps event
  have hl := slot_holds_last_write .stock [.inner .unresolved none] steps 2 .left
  have hs := slot_holds_last_write .stock [.inner .unresolved none] (steps ++ [event]) 3 .shared
  have hw : ∀ x ∈ event.writes start.gateways (start.after steps).attached.isSome,
      x.slot ≠ .left := by
    intro x hx
    cases hx
  exact ⟨rfl, hl.2.2.1 0 ⟨.inner, .own 0⟩ rfl, by decide, hw, hl.2.2.2.2 (by decide) event hw, hs.1⟩

end World

end Switchboard
