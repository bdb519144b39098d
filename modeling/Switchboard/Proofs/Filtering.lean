import Switchboard.Proofs.Runs

/-!
# What the filter makes a difference to

The filter decides what is kept of what is logged, and makes no difference to anything else. An
operation under some filter does what it does under one that keeps everything (`handed_connect` and
its like): it answers the same, leaves the same state and brings about the same events, and of its
records it hands on those that pass. Only events are ever held back at this point, since nothing
else asks before it logs, and the ceiling is applied to the rest afterwards. Either way the records
that a step leaves are those that the filter keeps (`step_under`), and the steps of a run that set
the filter can be left out of it (`run_under`).
-/

namespace Switchboard

/-- Whether a step sets a part of the filter. -/
def Step.setsFilter : Step → Bool
  | .setCeiling _ | .setMuted _ => true
  | _ => false

namespace Filter

def after (f : Filter) : Step → Filter
  | .setCeiling ceiling => { f with ceiling := ceiling }
  | .setMuted targets => { f with muted := targets }
  | _ => f

/-- The filters in force at the steps of a run that do not set it, in their order. -/
def inForce : Filter → List Step → List Filter
  | _, [] => []
  | f, s :: steps =>
    if s.setsFilter then inForce (f.after s) steps else f :: inForce f steps

/-- Whether a record is handed to the log: unless it is of an event, this is not asked. -/
def passes (f : Filter) (r : Record) : Bool :=
  r.target != .events || f.enables r.severity r.target

theorem everything_admits (s : Severity) : everything.admits s = true := by
  cases s <;> rfl

theorem everything_enables (s : Severity) (t : Target) : everything.enables s t = true := by
  rw [enables, everything_admits]
  rfl

theorem passes_of_not_events (f : Filter) {r : Record} (h : r.target ≠ .events) :
    f.passes r = true := by
  simp [passes, h]

theorem passes_of_events (f : Filter) {r : Record} (h : r.target = .events) :
    f.passes r = f.enables r.severity r.target := by
  simp [passes, h]

theorem admits_and_passes (f : Filter) (r : Record) :
    (f.admits r.severity && f.passes r) = f.keeps r := by
  by_cases h : r.target = .events
  · -- A filter enables nothing that it does not admit.
    rw [passes_of_events f h, keeps_of_events f h, enables, ← Bool.and_assoc, Bool.and_self]
  · rw [passes_of_not_events f h, keeps_of_not_events f h, Bool.and_true]

/-- Of the names that can be muted, only that of the events matters. -/
theorem keeps_congr {f g : Filter} (hc : f.ceiling = g.ceiling)
    (hm : f.muted.contains Target.events.name = g.muted.contains Target.events.name) :
    f.keeps = g.keeps := by
  funext r
  have ha : f.admits r.severity = g.admits r.severity := by simp only [admits, hc]
  by_cases h : r.target = .events
  · rw [keeps_of_events f h, keeps_of_events g h, enables, enables, ha, h, hm]
  · rw [keeps_of_not_events f h, keeps_of_not_events g h, ha]

end Filter

theorem Target.name_events_ne {t : Target} (h : t ≠ .events) : Target.events.name ≠ t.name := by
  cases t with
  | events => exact absurd rfl h
  | _ => decide

theorem Call.records_everything (captured : Option Domains) (c : Call) :
    c.records .everything captured = [c.toRecord captured] := by
  rw [records, if_pos (Filter.everything_enables _ _)]

/-- What the logger logs under a filter is what passes it of what it logs at all. -/
theorem Call.filter_passes_records (f : Filter) (captured : Option Domains) (cs : List Call) :
    (cs.flatMap (Call.records .everything captured)).filter f.passes =
      cs.flatMap (Call.records f captured) := by
  induction cs with
  | nil => rfl
  | cons c cs ih =>
    have hp : f.passes (c.toRecord captured) = f.enables c.level.severity .events :=
      f.passes_of_events rfl
    rw [List.flatMap_cons, List.flatMap_cons, List.filter_append, ih, records_everything, records]
    by_cases h : f.enables c.level.severity .events = true
    · rw [if_pos h, List.filter_cons_of_pos (hp.trans h), List.filter_nil]
    · rw [if_neg h, List.filter_cons_of_neg (by rw [hp]; exact h), List.filter_nil]

namespace World

/-- The same state under another filter. -/
def under (w : World) (f : Filter) : World :=
  { w with filter := f }

end World

namespace Outcome

variable {α β : Type}

/-- An outcome under another filter: the same, with those of its records that the filter keeps. -/
def under (f : Filter) (o : Outcome α) : Outcome α :=
  ⟨o.answer, o.world.under f, o.events, o.records.filter f.keeps⟩

/-- An outcome before the ceiling is applied, with those of its records that pass the filter. -/
def handed (f : Filter) (o : Outcome α) : Outcome α :=
  ⟨o.answer, o.world.under f, o.events, o.records.filter f.passes⟩

variable (f : Filter)

theorem handed_map (g : α → β) (o : Outcome α) : (o.map g).handed f = (o.handed f).map g :=
  rfl

theorem filter_passes_eq_self {records : List Record} (hr : ∀ r ∈ records, r.target ≠ .events) :
    records.filter f.passes = records :=
  List.filter_eq_self.2 fun r h => f.passes_of_not_events (hr r h)

theorem handed_logBefore {records : List Record} (hr : ∀ r ∈ records, r.target ≠ .events)
    (o : Outcome α) : (o.logBefore records).handed f = (o.handed f).logBefore records := by
  simp only [handed, logBefore, List.filter_append, filter_passes_eq_self f hr]

theorem handed_logAfter {records : List Record} (hr : ∀ r ∈ records, r.target ≠ .events)
    (o : Outcome α) : (o.logAfter records).handed f = (o.handed f).logAfter records := by
  simp only [handed, logAfter, List.filter_append, filter_passes_eq_self f hr]

theorem handed_ofRan {w : World} (h : w.filter = .everything) (answer : α) (ran : List Event) :
    (ofRan answer w ran).handed f = ofRan answer (w.under f) ran := by
  simp only [handed, ofRan, ofDelivery, Delivery.ofRan, h, Call.filter_passes_records]
  rfl

end Outcome

namespace World

section Operations

variable {w : World} (h : w.filter = .everything) (f : Filter)

include h

theorem handed_deliver (name : SlotName) (c : Call) :
    (w.deliver name c).handed f = (w.under f).deliver name c := by
  rw [deliver_eq, deliver_eq, Outcome.handed_ofRan f h]
  rfl

theorem handed_log (c : Call) : (w.log c).handed f = (w.under f).log c := by
  rw [log_eq, log_eq, Outcome.handed_ofRan f h]

theorem handed_emit (g : Gateway) (c : Call) :
    (w.emit g c).handed f = (w.under f).emit g c := by
  rw [emit_eq, emit_eq, show (w.under f).library g = w.library g from rfl]
  rcases (w.library g).destination? c.level with _ | name
  · rfl
  · exact Outcome.handed_ofRan f h _ _

theorem handed_connect (k : Connection) :
    (w.connect k.route k.level k.callback).handed f =
      (w.under f).connect k.route k.level k.callback := by
  rcases ho : w.objection? k with _ | fault
  · have ho' : (w.under f).objection? k = none := ho
    rw [connect_of_no_objection w ho, connect_of_no_objection _ ho',
      Outcome.handed_logBefore f (by simp [connectRecord])]
    rw [Outcome.handed_ofRan f]
    · rfl
    · exact h
  · have ho' : (w.under f).objection? k = some fault := ho
    rw [connect_of_objection w ho, connect_of_objection _ ho']
    rfl

theorem handed_connectLinked (level : Level) (cb : Option Callback) :
    (w.connectLinked level cb).handed f = (w.under f).connectLinked level cb := by
  have hk := handed_connect h f ⟨⟨.linked, .shared⟩, level, cb⟩
  unfold connectLinked
  rw [← hk, Outcome.handed_logAfter, Outcome.handed_map]
  · rfl
  · split <;> simp [lostRefusalRecord]

omit h in
theorem handed_askDomains (g : Gateway) :
    (w.askDomains g).handed f = (w.under f).askDomains g := by
  have hr : ∀ r ∈ (g.kind.askDomains (w.library g)).2.2, r.target ≠ .events := by
    intro r hr
    rw [GatewayKind.target_of_mem_askDomains hr]
    exact nofun
  unfold askDomains
  simp only [Outcome.handed, Outcome.filter_passes_eq_self f hr]
  rfl

omit h in
theorem handed_capture (g : Gateway) : (w.capture g).handed f = (w.under f).capture g := by
  have ha := handed_askDomains (w := w) f g
  unfold capture
  rw [show (w.under f).captured = w.captured from rfl]
  rcases w.captured with _ | ds
  · simp only [← ha]
    rfl
  · rfl

theorem handed_attachLog (r : Route) (level : Level) :
    (w.attachLog r level).handed f = (w.under f).attachLog r level := by
  have hc := handed_capture (w := w) f r.gateway
  have hw : (w.capture r.gateway).world.filter = .everything := by rw [capture_filter, h]
  have hk := handed_connect hw f ⟨r, level, some .logger⟩
  unfold attachLog
  rw [← hc]
  simp only [Outcome.logBefore, Outcome.handed, List.filter_append] at hk ⊢
  rw [← hk]

theorem handed_attachLogOnce (r : Route) (level : Level) :
    (w.attachLogOnce r level).handed f = (w.under f).attachLogOnce r level := by
  have ha := handed_attachLog h f r level
  unfold attachLogOnce
  rw [show (w.under f).attached = w.attached from rfl]
  rcases w.attached with _ | kept
  · simp only [← ha]
    rfl
  · rfl

omit h in
theorem under_adjust (g : Gateway) (change : Library → Library) :
    (w.adjust g change).under f = (w.under f).adjust g change := by
  unfold adjust
  split <;> rfl

omit h in
theorem handed_withGateway {place : Nat} {run run' : Gateway → Outcome Answer}
    (hr : ∀ g, (run g).handed f = run' g) :
    (w.withGateway place run).handed f = (w.under f).withGateway place run' := by
  unfold withGateway
  rw [show (w.under f).gateways = w.gateways from rfl]
  rcases w.gateways[place]? with _ | g
  · rfl
  · exact hr g

theorem handed_perform {s : Step} (hs : s.setsFilter = false) :
    (w.perform s).handed f = (w.under f).perform s := by
  cases s with
  | connect r level cb =>
    exact handed_withGateway f fun g =>
      congrArg (Outcome.map Answer.result) (handed_connect h f ⟨⟨g, r.slot⟩, level, cb⟩)
  | disconnect r level =>
    exact handed_withGateway f fun g =>
      congrArg (Outcome.map Answer.result) (handed_connect h f ⟨⟨g, r.slot⟩, level, none⟩)
  | connectShared i level cb =>
    exact handed_withGateway f fun g =>
      congrArg (Outcome.map Answer.result) (handed_connect h f ⟨⟨g, .shared⟩, level, cb⟩)
  | connectLinked level cb =>
    exact congrArg (Outcome.map fun _ => Answer.done) (handed_connectLinked h f level cb)
  | attachLog r level =>
    exact handed_withGateway f fun g =>
      congrArg (Outcome.map Answer.result) (handed_attachLog h f ⟨g, r.slot⟩ level)
  | attachLogOnce r level =>
    exact handed_withGateway f fun g =>
      congrArg (Outcome.map Answer.result) (handed_attachLogOnce h f ⟨g, r.slot⟩ level)
  | inspectRoute r => exact handed_withGateway f fun g => rfl
  | emit i c =>
    exact handed_withGateway f fun g =>
      congrArg (Outcome.map Answer.delivered) (handed_emit h f g c.wire)
  | enter name c | deliver name c =>
    exact congrArg (Outcome.map fun _ => Answer.done) (handed_deliver h f name c.wire)
  | log c => exact congrArg (Outcome.map fun _ => Answer.done) (handed_log h f c.wire)
  | askDomains i =>
    exact handed_withGateway f fun g =>
      congrArg (Outcome.map Answer.domains) (handed_askDomains f g)
  | setHandles i ds =>
    exact handed_withGateway f fun g =>
      congrArg (Outcome.plain Answer.done) (under_adjust f g fun lib => { lib with handles := ds })
  | setRefusal i refusal =>
    exact handed_withGateway f fun g =>
      congrArg (Outcome.plain Answer.done)
        (under_adjust f g fun lib => { lib with refusal := refusal })
  | put _ _ | look _ | tag _ => rfl
  | setCeiling _ | setMuted _ => cases hs

/-- A step under a filter does what it does under one that keeps everything, and leaves those of its
records that the filter keeps. -/
theorem step_under {s : Step} (hs : s.setsFilter = false) :
    (w.under f).step s = (w.step s).under f := by
  have hall : ((w.perform s).records.filter fun r => w.filter.admits r.severity) =
      (w.perform s).records := by
    rw [h]
    exact List.filter_eq_self.2 fun r _ => Filter.everything_admits r.severity
  have hk : (fun r => (w.under f).filter.admits r.severity && f.passes r) = f.keeps :=
    funext f.admits_and_passes
  simp only [step, ← handed_perform h f hs, hall]
  simp only [Outcome.handed, Outcome.under, List.filter_filter, hk]

/-- A step that does not set the filter leaves it as it is. -/
theorem step_filter_of_everything {s : Step} (hs : s.setsFilter = false) :
    (w.step s).world.filter = .everything := by
  have hw : w.under .everything = w := by rw [under, ← h]
  have hstep := step_under h .everything hs
  rw [hw] at hstep
  rw [hstep]
  rfl

end Operations

theorem step_world_of_setsFilter (w : World) {s : Step} (hs : s.setsFilter = true) :
    (w.step s).world = w.under (w.filter.after s) := by
  cases s with
  | setCeiling _ | setMuted _ => rfl
  | _ => cases hs

/-- A run, and the run of those steps alone that do not set the filter, from the same state but for
the filter. -/
theorem run_under : ∀ (steps : List Step) {w : World} (f : Filter), w.filter = .everything →
    (((steps.zip ((w.under f).run steps)).filter fun p => !p.1.setsFilter).map Prod.snd) =
      List.zipWith Outcome.under (f.inForce steps) (w.run (steps.filter fun s => !s.setsFilter))
  | [], _, _, _ => rfl
  | s :: steps, w, f, h => by
    by_cases hs : s.setsFilter = true
    · -- The step is left out of the second run.
      have ih := run_under steps (f.after s) h
      have hw : ((w.under f).step s).world = w.under (f.after s) := by
        rw [step_world_of_setsFilter _ hs]
        rfl
      rw [← hw] at ih
      simp only [run, List.zip_cons_cons, List.filter_cons, hs, Bool.not_true, Bool.false_eq_true,
        if_false, Filter.inForce, if_true, ih]
    · have hs' : s.setsFilter = false := by simpa using hs
      have hstep := step_under h f hs'
      have ih := run_under steps f (step_filter_of_everything h hs')
      simp only [run, List.zip_cons_cons, List.filter_cons, hs', Bool.not_false, if_true,
        Filter.inForce, Bool.false_eq_true, if_false, List.map_cons, List.zipWith_cons_cons, hstep]
      exact congrArg (List.cons _) ih

/-- Muting a target that is not that of the events holds no record back. -/
theorem step_records_of_muted (w : World) {t : Target} (ht : t ≠ .events) (s : Step) :
    ((w.step (.setMuted (t.name :: w.filter.muted))).world.step s).records =
      (w.step s).records := by
  have hw : (w.under .everything).filter = .everything := rfl
  have hk : ({ w.filter with muted := t.name :: w.filter.muted } : Filter).keeps =
      w.filter.keeps := by
    refine Filter.keeps_congr rfl ?_
    rw [List.contains_cons, beq_false_of_ne (Target.name_events_ne ht), Bool.false_or]
  by_cases hs : s.setsFilter = true
  · cases s with
    | setCeiling _ | setMuted _ => rfl
    | _ => cases hs
  · have hs' : s.setsFilter = false := by simpa using hs
    have hmuted := step_under hw { w.filter with muted := t.name :: w.filter.muted } hs'
    have hplain := step_under hw w.filter hs'
    show (((w.under .everything).under _).step s).records =
      (((w.under .everything).under w.filter).step s).records
    rw [hmuted, hplain]
    exact congrArg (fun p => ((w.under .everything).step s).records.filter p) hk

/-- What is set of the filter makes a difference to the records alone. If the steps that set it are
left out of a run, every other step answers the same, brings about the same events and leaves the
same state but for the filter. Of the records that it leaves then, the filter in force keeps those
that are admitted by its ceiling and are not of an event while the target of the events is muted. To
mute another target makes no difference at all. -/
theorem filter_thins_records_only (files : FileTree) (specs : List GatewaySpec)
    (steps : List Step) :
    let w := opened files specs
    (((steps.zip (w.run steps)).filter fun p => !p.1.setsFilter).map Prod.snd) =
        List.zipWith Outcome.under (Filter.everything.inForce steps)
          (w.run (steps.filter fun s => !s.setsFilter)) ∧
      ∀ t, t ≠ Target.events → ∀ s,
        let v := w.after steps
        ((v.step (.setMuted (t.name :: v.filter.muted))).world.step s).records =
          (v.step s).records := by
  intro w
  have h : w.filter = .everything := (fresh_opened files specs).filter
  refine ⟨?_, fun t ht s => step_records_of_muted _ ht s⟩
  have hrun := run_under steps .everything h
  rwa [show w.under .everything = w by rw [under, ← h]] at hrun

/-- With the events muted and a ceiling of information, an event leaves no record, and of a refused
registration only the refusal is left. -/
theorem records_of_muted_run :
    let w := opened .stock [.inner .unresolved none]
    let steps : List Step :=
      [.attachLog ⟨0, .left⟩ .info, .setCeiling (some .info), .setMuted ["litecore"],
        .emit 0 ⟨⟨16⟩, .info, some [104, 105]⟩, .connect ⟨0, .left⟩ ⟨99⟩ none]
    (((steps.zip (w.run steps)).filter fun p => !p.1.setsFilter).map fun p => p.2.records) =
        [[connectRecord .info (some .logger)], [], [refusalRecord (.unknownLevel ⟨99⟩)]] ∧
      Target.route ≠ .events ∧
      (((w.after steps).step (.setMuted ["c4log_relay::relay", "litecore"])).world.step
          (.connect ⟨0, .left⟩ ⟨99⟩ none)).records =
        [refusalRecord (.unknownLevel ⟨99⟩)] := by
  intro w steps
  have h := filter_thins_records_only .stock [.inner .unresolved none] steps
  have hrecords := congrArg (List.map Outcome.records) h.1
  rw [List.map_map] at hrecords
  have hroute : Target.route ≠ .events := by decide
  exact ⟨hrecords.trans (by rfl), hroute, (h.2 .route hroute _).trans (by rfl)⟩

end World

end Switchboard
