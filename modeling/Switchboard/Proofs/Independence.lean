import Switchboard.Proofs.Separation

/-!
# Independent routes

Leaving the steps of one group out of a run makes no difference to the other group. The simulation
between the two runs is that the state of the one that has steps left out is, to the first group,
the state of the other: a step of the first group keeps this by `restrict_perform_of_first`, and a
step that is left out by `restrict_perform_of_second`.
-/

namespace Switchboard

/-- What a group sees of the outcome of one of its steps: the answer, the events, the records, what
its slots hold and the state of its libraries. -/
structure Sight where
  answer : Answer
  events : List Event
  records : List Record
  slots : SlotName → Option (Option Callback)
  libraries : LibraryId → Option Library

/-- What the first group sees of an outcome. -/
def Split.sight (G : Split) (o : Outcome Answer) : Sight where
  answer := o.answer
  events := o.events
  records := o.records
  slots := fun name => if G.inFirst (.slot name) then some (o.world.slots.get name) else none
  libraries := fun id => if G.inFirst (.library id) then some (o.world.libraries id) else none

theorem Split.sight_restrict (G : Split) (o : Outcome Answer) :
    G.sight (o.restrict G) = G.sight o := by
  simp only [sight, Outcome.restrict, World.restrict, get_slots, Sight.mk.injEq, true_and]
  refine ⟨funext fun name => ?_, funext fun id => ?_⟩
  · split_ifs <;> rfl
  · split_ifs <;> rfl

namespace World

variable {G : Split} {w : World} {s : Step}

theorem restrict_step_of_first (hc : G.Confined w) (hr : G.Respects w.gateways s)
    (hk : G.keeps w.gateways s = true) : (w.step s).restrict G = (w.restrict G).step s := by
  have h := restrict_perform_of_first hc hr hk
  simp only [step, ← h]
  rfl

theorem sight_eq_of_restrict {v : World} (h : (w.step s).restrict G = (v.step s).restrict G) :
    G.sight (w.step s) = G.sight (v.step s) := by
  rw [← Split.sight_restrict, h, Split.sight_restrict]

/-- A run, and the run of the first group's steps alone, from a state that is the same to the first
group. -/
theorem sight_run : ∀ (steps : List Step) {w v : World}, G.Confined w → G.Confined v →
    w.restrict G = v.restrict G → (∀ s ∈ steps, G.Respects w.gateways s) →
    (((steps.zip (w.run steps)).filter fun p => G.keeps w.gateways p.1).map
        fun p => G.sight p.2) =
      (v.run (steps.filter (G.keeps w.gateways))).map G.sight
  | [], _, _, _, _, _, _ => rfl
  | s :: steps, w, v, hw, hv, hwv, h => by
    have hs := h s List.mem_cons_self
    have hrest : ∀ s' ∈ steps, G.Respects (w.step s).world.gateways s' := by
      rw [step_gateways]
      exact fun s' hs' => h s' (List.mem_cons_of_mem _ hs')
    by_cases hk : G.keeps w.gateways s = true
    · -- Both runs take the step.
      have hg : (v.restrict G).gateways = (w.restrict G).gateways :=
        congrArg World.gateways hwv.symm
      have hsv : G.Respects (v.restrict G).gateways s := hg ▸ hs
      have hstep : (w.step s).restrict G = (v.step s).restrict G := by
        rw [restrict_step_of_first hw hs hk, hwv, restrict_step_of_first hv hsv (hg ▸ hk)]
      have ih := sight_run steps (hw.step hs) (hv.step hsv) (congrArg Outcome.world hstep) hrest
      rw [step_gateways] at ih
      simp only [List.filter_cons, if_pos hk, run, List.zip_cons_cons, List.map_cons, ih,
        sight_eq_of_restrict hstep]
    · -- The step is left out of the second run.
      have hstep : (w.step s).world.restrict G = w.restrict G :=
        restrict_perform_of_second hw hs (by simpa using hk)
      have ih := sight_run steps (hw.step hs) hv (hstep.trans hwv) hrest
      rw [step_gateways] at ih
      simp only [List.filter_cons, if_neg hk, run, List.zip_cons_cons, ih]

/-- Leaving the steps of the second group out of a run makes no difference to the first: each of its
steps has the same answer, the same events and the same records, and leaves its slots and its
libraries the same. -/
theorem independent_of_second_group (files : FileTree) (specs : List GatewaySpec) (G : Split)
    (steps : List Step)
    (h : ∀ s ∈ steps, G.Respects (opened files specs).gateways s) :
    let w := opened files specs
    (((steps.zip (w.run steps)).filter fun p => G.keeps w.gateways p.1).map
        fun p => G.sight p.2) =
      (w.run (steps.filter (G.keeps w.gateways))).map G.sight := by
  have hc : G.Confined (opened files specs) := Split.confined_of_fresh (fresh_opened files specs)
  exact sight_run steps hc hc rfl h

/-- Two routes over libraries of their own. An event over the first clears the shared slot, which the
second has nothing to do with. -/
theorem first_route_without_the_second :
    let w := opened .stock [.inner .unresolved none, .inner .unresolved none]
    let G : Split := ⟨fun a => a == .slot .shared || a == .library (.own 0)⟩
    let steps : List Step :=
      [.connect ⟨0, .shared⟩ .info (some .clear), .connect ⟨1, .left⟩ .debug (some .second),
        .emit 1 ⟨.null, .error, none⟩, .emit 0 ⟨.null, .error, none⟩, .look .left, .look .shared]
    (∀ s ∈ steps, G.Respects w.gateways s) ∧
      (((steps.zip (w.run steps)).filter fun p => G.keeps w.gateways p.1).map
          fun p => G.sight p.2) =
        (w.run [.connect ⟨0, .shared⟩ .info (some .clear), .emit 0 ⟨.null, .error, none⟩,
          .look .shared]).map G.sight := by
  intro w G steps
  have h : ∀ s ∈ steps, G.Respects w.gateways s := by decide +zetaReduce
  exact ⟨h, independent_of_second_group .stock _ G steps h⟩

end World

end Switchboard
