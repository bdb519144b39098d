import Switchboard.Proofs.Runs

/-!
# Attaching the log once

The first attempt to attach the log once attaches it, and what comes of that is kept. It stays kept
whatever happens afterwards (`after_attached_of_some`), also if the log is attached by other steps
or a library takes registrations that it refused before. So every later attempt answers as the first
one did. It gives a copy of what is kept, and a copied fault says what the fault said
(`Fault.copy_eq`). It does nothing besides, over whichever route it is made.
-/

namespace Switchboard

namespace World

variable {w : World} {r : RouteRef} {g : Gateway} {level : Level} {kept : Except Fault Unit}

theorem step_attached_of_some (h : w.attached = some kept) (s : Step) :
    (w.step s).world.attached = some kept := by
  rw [step_attached, attachedAfter, h]
  rfl

theorem after_attached_of_some : ∀ (steps : List Step) {w : World}, w.attached = some kept →
    (w.after steps).attached = some kept
  | [], _, h => h
  | s :: steps, _, h => after_attached_of_some steps (step_attached_of_some h s)

theorem after_attached_of_untried {steps : List Step}
    (h : ∀ s ∈ steps, s.triesOnce w.gateways = false) (ha : w.attached = none) :
    (w.after steps).attached = none := by
  rw [← Option.not_isSome_iff_eq_none, after_attached, ha]
  simp only [Option.isSome_none, Bool.false_or, List.any_eq_true, not_exists, not_and]
  intro s hs
  rw [h s hs]
  exact Bool.false_ne_true

/-- The first attempt is an attachment whose outcome is kept besides. -/
theorem step_attachLogOnce_of_untried (ha : w.attached = none)
    (hg : w.gateways[r.gateway]? = some g) (level : Level) :
    let o := w.step (.attachLog r level)
    let outcome := w.verdict ⟨⟨g, r.slot⟩, level, some .logger⟩
    o.answer = .result outcome ∧
      w.step (.attachLogOnce r level) =
        { o with world := { o.world with attached := some outcome } } := by
  intro o outcome
  have hv : (w.attachLog ⟨g, r.slot⟩ level).answer = outcome := attachLog_answer w _ level
  have ho : o.answer = .result outcome := by
    simp only [o, step, perform, withRoute, withGateway, hg]
    exact congrArg Answer.result hv
  refine ⟨ho, ?_⟩
  simp only [o, step, perform, withRoute, withGateway, hg, attachLogOnce, ha, Fault.mapError_copy,
    Outcome.map, hv]

theorem step_attachLogOnce_of_tried (ha : w.attached = some kept)
    (hg : w.gateways[r.gateway]? = some g) (level : Level) :
    w.step (.attachLogOnce r level) = .plain (.result kept) w := by
  simp only [step, perform, withRoute, withGateway, hg, attachLogOnce, ha, Fault.mapError_copy]
  rfl

/-- The first attempt to attach the log once does and answers what attaching it would. Every later
attempt, over whichever route and at whichever level, gives the same answer and changes nothing:
there is no event and no record, and the state stays as it is. -/
theorem attachLogOnce_answers_as_first (files : FileTree) (specs : List GatewaySpec)
    (pre : List Step) {r : RouteRef} {g : Gateway} (level : Level)
    (hpre : ∀ s ∈ pre, s.triesOnce (opened files specs).gateways = false)
    (hg : (opened files specs).gateways[r.gateway]? = some g) :
    let start := opened files specs
    let w := start.after pre
    let o := w.step (.attachLog r level)
    ∃ outcome, o.answer = .result outcome ∧
      w.step (.attachLogOnce r level) =
        { o with world := { o.world with attached := some outcome } } ∧
      ∀ post r' g' level', start.gateways[r'.gateway]? = some g' →
        let v := start.after (pre ++ .attachLogOnce r level :: post)
        v.step (.attachLogOnce r' level') = .plain (.result outcome) v := by
  intro start w o
  have ha : w.attached = none := after_attached_of_untried hpre (fresh_opened files specs).attached
  have hgw : w.gateways[r.gateway]? = some g := by rw [after_gateways, hg]
  obtain ⟨ho, hfirst⟩ := step_attachLogOnce_of_untried ha hgw level
  refine ⟨_, ho, hfirst, fun post r' g' level' hg' => ?_⟩
  intro v
  have hv : v.attached = some (w.verdict ⟨⟨g, r.slot⟩, level, some .logger⟩) := by
    have hsplit : v = (w.step (.attachLogOnce r level)).world.after post :=
      after_append _ pre (.attachLogOnce r level :: post)
    rw [hsplit]
    refine after_attached_of_some post ?_
    rw [hfirst]
  refine step_attachLogOnce_of_tried hv (g := g') ?_ level'
  rw [after_gateways, hg']

/-- A first attempt that fails on a file that is not there is answered in the same words again, when
the library would take the registration and although the log has been attached meanwhile. -/
theorem attachLogOnce_fails_again :
    let start := opened .stock
      [.inner .unresolved (some (.io OsError.noSuchFile.message)), .bare none]
    let pre : List Step := [.attachLog ⟨1, .left⟩ .info]
    let post : List Step := [.setRefusal 0 none, .attachLog ⟨0, .shared⟩ .debug]
    let v := start.after (pre ++ .attachLogOnce ⟨0, .shared⟩ .info :: post)
    (∀ s ∈ pre, s.triesOnce start.gateways = false) ∧
      start.gateways[0]? = some ⟨.inner, .own 0⟩ ∧
      start.gateways[1]? = some ⟨.bare, .own 1⟩ ∧
      v.step (.attachLogOnce ⟨1, .right⟩ .off) =
        .plain (.result (.error (.io "No such file or directory (os error 2)"))) v := by
  intro start pre post v
  have hpre : ∀ s ∈ pre, s.triesOnce start.gateways = false := by decide +zetaReduce
  have h := attachLogOnce_answers_as_first .stock _ pre (r := ⟨0, .shared⟩) .info hpre rfl
  obtain ⟨outcome, hfirst, -, hlater⟩ := h
  obtain rfl : Except.error (.io "No such file or directory (os error 2)") = outcome :=
    Answer.result.inj hfirst
  exact ⟨hpre, rfl, rfl, hlater post ⟨1, .right⟩ ⟨.bare, .own 1⟩ .off rfl⟩

end World

end Switchboard
