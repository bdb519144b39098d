import Switchboard.Proofs.Runs

/-!
# Domains are captured once

Whatever is tagged is tagged by the domains that have been captured. Nothing is captured before the
log is attached for the first time; then the domains of that gateway are, before the library hears
of the registration, and they stay (`after_captured`). So what comes later, be it another attachment
or another set of handles, changes no tag, and no library is asked for its domains to attach the log
again (`inquiry_step_of_captured`).
-/

namespace Switchboard

/-- What a library keeps track of having been asked. -/
def Library.asked (lib : Library) : Nat × Nat × Nat :=
  (lib.lookups, lib.creates, lib.order)

/-- What can be seen of libraries' being asked for their domains: what each has kept track of by the
end, and what is logged about them. -/
structure Inquiry where
  asked : LibraryId → Nat × Nat × Nat
  records : List Record

def Outcome.inquiry {α : Type} (o : Outcome α) : Inquiry where
  asked := fun id => (o.world.libraries id).asked
  records := o.records.filter fun r => r.target == .loader

namespace World

variable {w : World} {s : Step} {g : Gateway} {ds : Domains}

/-! ### What has been captured -/

theorem capturedIn_of_captured (h : w.captured = some ds) (s : Step) :
    w.capturedIn s = some ds := by
  unfold capturedIn
  split
  · rw [h]
    rfl
  · exact h
  · exact h

/-- The first step that attaches the log captures what its gateway answers before the step. -/
theorem capturedIn_of_captured_eq_none (hc : w.captured = none) (ha : w.attached = none)
    (h : s.attaches? w.gateways = some g) : w.capturedIn s = some (w.askDomains g).answer := by
  obtain ⟨k, hk⟩ := connection?_of_attaches w ha h
  rw [capturedIn_of_attaches w hk h, hc]
  rfl

theorem after_captured : ∀ (steps : List Step) {w : World}, w.captured = some ds →
    (w.after steps).captured = some ds
  | [], _, h => h
  | s :: steps, w, h =>
    after_captured steps (by rw [step_captured, capturedIn_of_captured h])

theorem after_captured_of_attaches_eq_none : ∀ (steps : List Step) {w : World},
    (∀ s ∈ steps, s.attaches? w.gateways = none) → (w.after steps).captured = w.captured
  | [], _, _ => rfl
  | s :: steps, w, h => by
    rw [after_cons, after_captured_of_attaches_eq_none steps, step_captured,
      capturedIn_of_attaches_eq_none w (h s List.mem_cons_self)]
    intro s' hs'
    rw [step_gateways]
    exact h s' (List.mem_cons_of_mem _ hs')

theorem tag_of_captured (h : w.captured = some ds) (handle : Handle) :
    (w.step (.tag handle)).answer = .tag (ds.tagOf handle) := by
  show Answer.tag (capturedTag w.captured handle) = _
  rw [h]
  rfl

theorem tag_of_captured_eq_none (h : w.captured = none) (handle : Handle) :
    (w.step (.tag handle)).answer = .tag unknownTag := by
  show Answer.tag (capturedTag w.captured handle) = _
  rw [h]
  rfl

/-! ### Asking for domains -/

def asked (w : World) (id : LibraryId) : Nat × Nat × Nat :=
  (w.libraries id).asked

theorem inquiry_step (w : World) (s : Step) :
    (w.step s).inquiry =
      ⟨(w.perform s).inquiry.asked,
        (w.perform s).inquiry.records.filter fun r => w.filter.admits r.severity⟩ := by
  refine congrArg (Inquiry.mk _) ?_
  simp only [step, Outcome.inquiry, List.filter_filter, Bool.and_comm]

theorem inquiry_connect (w : World) (k : Connection) :
    (w.connect k.route k.level k.callback).inquiry = ⟨w.asked, []⟩ := by
  rcases h : w.objection? k with _ | fault
  · rw [connect_of_no_objection w h]
    refine congrArg₂ Inquiry.mk (funext fun id => ?_) (List.filter_eq_nil_iff.2 fun r hr => ?_)
    · by_cases hid : id = k.library
      · subst hid
        simp [Outcome.logBefore, Outcome.ofRan, Outcome.ofDelivery, Library.accept, asked,
          Library.asked, library, Connection.library]
      · exact congrArg Library.asked (setLibrary_libraries_of_ne (w.put _ _) hid _)
    · simp only [Outcome.logBefore, List.singleton_append, List.mem_cons] at hr
      rcases hr with rfl | hr
      · simp [connectRecord]
      · obtain ⟨c, -, hc⟩ := List.mem_flatMap.1 hr
        simp [Call.target_of_mem_records hc]
  · rw [connect_of_objection w h]
    rfl

/-- To attach the log, a library is asked for its domains only when they are captured. -/
theorem inquiry_attachLog (w : World) (r : Route) (level : Level) :
    (w.attachLog r level).inquiry = (w.capture r.gateway).inquiry := by
  have hk := inquiry_connect (w.capture r.gateway).world ⟨r, level, some .logger⟩
  have ha := congrArg Inquiry.asked hk
  have hr := congrArg Inquiry.records hk
  refine congrArg₂ Inquiry.mk ha ?_
  rw [attachLog, Outcome.logBefore, List.filter_append]
  exact (congrArg _ hr).trans (List.append_nil _)

theorem inquiry_capture_of_captured (h : w.captured = some ds) (g : Gateway) :
    (w.capture g).inquiry = ⟨w.asked, []⟩ := by
  unfold capture
  rw [h]
  rfl

theorem inquiry_capture_of_captured_eq_none (h : w.captured = none) (g : Gateway) :
    (w.capture g).inquiry = (w.askDomains g).inquiry := by
  unfold capture
  rw [h]
  rfl

/-- A step that attaches the log asks as capturing does, or not at all where attaching the log once
has been tried. -/
theorem inquiry_perform_of_attaches (h : s.attaches? w.gateways = some g) :
    (w.perform s).inquiry = (w.capture g).inquiry ∨
      w.attached.isSome = true ∧ (w.perform s).inquiry = ⟨w.asked, []⟩ := by
  cases s with
  | attachLog r level =>
    have hg : w.gateways[r.gateway]? = some g := h
    simp only [perform, withRoute, withGateway, hg]
    exact .inl (inquiry_attachLog w ⟨g, r.slot⟩ level)
  | attachLogOnce r level =>
    have hg : w.gateways[r.gateway]? = some g := h
    simp only [perform, withRoute, withGateway, hg, attachLogOnce]
    rcases w.attached with _ | answer
    · exact .inl (inquiry_attachLog w ⟨g, r.slot⟩ level)
    · exact .inr ⟨rfl, rfl⟩
  | _ => cases h

theorem inquiry_step_of_captured (hc : w.captured = some ds)
    (h : s.attaches? w.gateways = some g) : (w.step s).inquiry = ⟨w.asked, []⟩ := by
  have hp : (w.perform s).inquiry = ⟨w.asked, []⟩ := by
    rcases inquiry_perform_of_attaches h with hp | ⟨-, hp⟩
    · exact hp.trans (inquiry_capture_of_captured hc g)
    · exact hp
  rw [inquiry_step, hp]
  rfl

/-- To attach the log for the first time, its gateway is asked as it would be without. -/
theorem inquiry_step_of_captured_eq_none (hc : w.captured = none) (ha : w.attached = none)
    (h : s.attaches? w.gateways = some g) {i : Nat} (hg : w.gateways[i]? = some g) :
    (w.step s).inquiry = (w.step (.askDomains i)).inquiry := by
  have hp : (w.perform s).inquiry = (w.perform (.askDomains i)).inquiry := by
    rcases inquiry_perform_of_attaches h with hp | ⟨hs, -⟩
    · rw [hp, inquiry_capture_of_captured_eq_none hc]
      simp only [perform, withGateway, hg]
      rfl
    · rw [ha] at hs
      cases hs
  rw [inquiry_step, inquiry_step, hp]

/-- Every handle is unknown until the log is attached for the first time. The domains that are
captured then are those that the gateway of that attachment answers with just before, whether or not
the library takes the registration. By these are tagged the events that the library logs while it
registers and all events and handles from then on, whatever steps follow. All attachments together
ask for domains once: the first one as asking the gateway would, the later ones not at all. -/
theorem domains_captured_once (files : FileTree) (specs : List GatewaySpec) (pre : List Step)
    (hpre : ∀ s ∈ pre, s.attaches? (opened files specs).gateways = none) :
    let w := (opened files specs).after pre
    (∀ handle, (w.step (.tag handle)).answer = .tag "unkndmn") ∧
      ∀ s g, s.attaches? w.gateways = some g → ∀ i, w.gateways[i]? = some g →
        ∃ ds, (w.step (.askDomains i)).answer = .domains ds ∧
          let tagged : Call → Record :=
            fun c => ⟨c.level.severity, .events, ds.tagOf c.domain ++ " " ++ c.body⟩
          (w.step s).inquiry = (w.step (.askDomains i)).inquiry ∧
          ((w.step s).records.filter fun r => r.target == .events) =
            ((w.logged s).map tagged).filter w.filter.keeps ∧
          ∀ post,
            let v := (opened files specs).after (pre ++ s :: post)
            (∀ handle, (v.step (.tag handle)).answer = .tag (ds.tagOf handle)) ∧
              ∀ t, ((v.step t).records.filter fun r => r.target == .events) =
                  ((v.logged t).map tagged).filter v.filter.keeps ∧
                (t.attaches? v.gateways ≠ none → (v.step t).inquiry = ⟨v.asked, []⟩) := by
  intro w
  have hfresh := fresh_opened files specs
  have hc : w.captured = none := by
    rw [after_captured_of_attaches_eq_none pre hpre, hfresh.captured]
  have ha : w.attached = none := by
    rw [← Option.not_isSome_iff_eq_none, after_attached, hfresh.attached]
    simp only [Option.isSome_none, Bool.false_or, List.any_eq_true, not_exists, not_and]
    intro s hs
    rw [triesOnce_of_attaches_eq_none (hpre s hs)]
    exact Bool.false_ne_true
  refine ⟨tag_of_captured_eq_none hc, fun s g hs i hg => ⟨(w.askDomains g).answer, ?_⟩⟩
  have hcs := capturedIn_of_captured_eq_none hc ha hs
  refine ⟨?_, inquiry_step_of_captured_eq_none hc ha hs hg, ?_, fun post => ?_⟩
  · simp only [step, perform, withGateway, hg]
    rfl
  · rw [step_records, hcs]
    rfl
  · intro v
    have hv : v.captured = some (w.askDomains g).answer := by
      have hsplit : v = (w.step s).world.after post := after_append _ pre (s :: post)
      rw [hsplit]
      exact after_captured post ((step_captured w s).trans hcs)
    refine ⟨tag_of_captured hv, fun t => ⟨?_, fun ht => ?_⟩⟩
    · rw [step_records, capturedIn_of_captured hv]
      rfl
    · obtain ⟨g', hg'⟩ := Option.ne_none_iff_exists'.1 ht
      exact inquiry_step_of_captured hv hg'

/-- The domains of the first gateway are captured although its library refuses the registration, and
stay when its handles change and the log is attached over another gateway. -/
theorem domains_captured_in_refused_attachment :
    let start := opened .stock
      [.inner ⟨⟨16⟩, ⟨32⟩, ⟨48⟩, ⟨64⟩, ⟨80⟩⟩ (some (.refused "busy")), .inner .unresolved none]
    let pre : List Step := [.put .left (some .first)]
    let first : Step := .attachLogOnce ⟨0, .left⟩ .info
    let post : List Step := [.setHandles 0 .unresolved, .attachLog ⟨1, .shared⟩ .info]
    let v := start.after (pre ++ first :: post)
    (∀ s ∈ pre, s.attaches? start.gateways = none) ∧
      first.attaches? (start.after pre).gateways = some ⟨.inner, .own 0⟩ ∧
      (start.after pre).gateways[0]? = some ⟨.inner, .own 0⟩ ∧
      ((start.after pre).step first).answer = .result (.error (.refused "busy")) ∧
      (v.step (.tag ⟨32⟩)).answer = .tag "db" ∧
      (Step.attachLog ⟨1, .left⟩ .info).attaches? v.gateways ≠ none ∧
      (v.step (.attachLog ⟨1, .left⟩ .info)).inquiry = ⟨v.asked, []⟩ := by
  intro start pre first post v
  have hpre : ∀ s ∈ pre, s.attaches? start.gateways = none := by decide +zetaReduce
  obtain ⟨-, hcaptured⟩ := domains_captured_once .stock _ pre hpre
  obtain ⟨ds, hds, -, -, hpost⟩ := hcaptured first ⟨.inner, .own 0⟩ rfl 0 rfl
  obtain ⟨htag, hlater⟩ := hpost post
  obtain rfl : _ = ds := Answer.domains.inj hds
  have hv : (Step.attachLog ⟨1, .left⟩ .info).attaches? v.gateways ≠ none := nofun
  exact ⟨hpre, rfl, rfl, rfl, htag ⟨32⟩, hv, (hlater _).2 hv⟩

end World

end Switchboard
