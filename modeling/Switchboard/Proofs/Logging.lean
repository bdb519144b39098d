import Mathlib.Tactic.Common
import Switchboard.Proofs.Announcements
import Switchboard.Proofs.Descent
import Switchboard.Proofs.Replacement

/-!
# What the log gets of events

An event comes to the log because the logger is called with it: by itself, by a delivery to a slot
that holds it, by a callback that hands the event on to the shared slot, or while a route is
connected to it. However that comes about, the logger changes no slot and makes one record if the
ceiling is no more severe than the event and events are not muted, and none otherwise
(`Call.entry`). The record is tagged by the domains that have been captured by then; as connecting
captures them first, the tags are those that are answered after the step.
-/

namespace Switchboard

namespace Filter

/-- Whether the log takes an event of this severity. -/
def Takes (f : Filter) (s : Severity) : Prop :=
  (∃ most ∈ f.ceiling, s.rank ≤ most.rank) ∧ "litecore" ∉ f.muted

instance (f : Filter) (s : Severity) : Decidable (f.Takes s) :=
  inferInstanceAs (Decidable (_ ∧ _))

theorem enables_events_iff {f : Filter} {s : Severity} :
    f.enables s .events = true ↔ f.Takes s := by
  have ha : f.admits s = true ↔ ∃ most ∈ f.ceiling, s.rank ≤ most.rank := by
    unfold admits
    rcases f.ceiling with _ | most <;> simp
  rw [enables, Bool.and_eq_true, ha, Takes, Bool.not_eq_true', ← Bool.not_eq_true,
    List.contains_iff_mem]
  rfl

end Filter

namespace Call

/-- What the log gets of an event, where domains have these tags. -/
def entry (f : Filter) (tag : Handle → String) (c : Call) : List Record :=
  if f.Takes c.level.severity then
    [⟨c.level.severity, .events, tag c.domain ++ " " ++ c.body⟩]
  else []

theorem records_eq_entry (f : Filter) (captured : Option Domains) (c : Call) :
    c.records f captured = c.entry f (capturedTag captured) := by
  unfold records entry
  by_cases h : f.Takes c.level.severity
  · rw [if_pos h, if_pos (Filter.enables_events_iff.2 h)]
    rfl
  · rw [if_neg h, if_neg (mt Filter.enables_events_iff.1 h)]

end Call

theorem Delivery.invokeAt_logger (f : Filter) (captured : Option Domains) (depth : Nat)
    (slots : Slots) (c : Call) :
    Delivery.invokeAt f captured depth slots .logger c =
      ⟨slots, [], c.entry f (capturedTag captured)⟩ := by
  rw [← Call.records_eq_entry]
  cases depth <;> rfl

namespace World

variable (w : World)

/-- The steps that hand an event to a slot: a delivery, a call of its entry point, or an event of a
library that is registered with it. -/
inductive Hands (name : SlotName) (c : Call) : Step → Answer → Prop
  | deliver : Hands name c (.deliver name c) .done
  | enter : Hands name c (.enter name c) .done
  | emit {i : Nat} {g : Gateway} (hg : w.gateways[i]? = some g)
    (hd : (w.library g).destination? c.level = some name) :
    Hands name c (.emit i c) (.delivered true)

variable {w}

theorem Hands.step_eq {name : SlotName} {c : Call} {s : Step} {answer : Answer}
    (h : w.Hands name c s answer) :
    w.step s = { w.step (.deliver name c) with answer := answer } := by
  cases h with
  | deliver => rfl
  | enter => rfl
  | emit hg hd => exact step_emit_of_destination w hg hd

variable (w)

theorem ofRan_logger (answer : Answer) (c : Call) :
    Outcome.ofRan answer w [⟨.logger, c⟩] =
      ⟨answer, w, [], c.entry w.filter (capturedTag w.captured)⟩ := by
  rw [Outcome.ofRan, Delivery.ofRan_logger, Call.records_eq_entry]
  rfl

theorem step_deliver_of_logger {name : SlotName} (h : w.slots.get name = some .logger) (c : Call) :
    w.step (.deliver name c) =
      ⟨.done, w, [], c.wire.entry w.filter (capturedTag w.captured)⟩ := by
  rw [step_deliver_ran w (Delivery.ran_of_ne_nest h nofun), ofRan_logger]

/-- What is handed on to the logger is taken note of by who hands it on, and logged one level
lower. -/
theorem step_deliver_of_nest {name : SlotName} (h : w.slots.get name = some .nest)
    (hs : w.slots.shared = some .logger) {c : Call} (hl : 0 < c.level.raw.toInt) :
    w.step (.deliver name c) =
      ⟨.done, w, [⟨.nest, c.wire⟩], c.lower.wire.entry w.filter (capturedTag w.captured)⟩ := by
  have hran : Delivery.ran w.slots name c.wire = [⟨.nest, c.wire⟩, ⟨.logger, c.lower.wire⟩] := by
    have hl' : 0 < c.wire.level.raw.toInt := hl
    have hnext : Delivery.ran w.slots .shared c.wire.lower = [⟨.logger, c.wire.lower⟩] :=
      Delivery.ran_of_ne_nest hs nofun
    rw [Delivery.ran_nest_of_pos h hl', hnext]
    rfl
  rw [step_deliver_ran w hran, ← Call.records_eq_entry]
  exact congrArg (Outcome.mk Answer.done w [⟨.nest, c.wire⟩]) (List.append_nil _)

/-- The logger that is called by itself does what it does when it is found in a slot. -/
theorem step_log (c : Call) :
    w.step (.log c) = ⟨.done, w, [], c.wire.entry w.filter (capturedTag w.captured)⟩ := by
  rw [← ofRan_logger]
  refine step_of_perform w ?_
  rw [perform, log_eq]
  rfl

/-- While a route is connected to the logger, the log gets the library's own events, and no callback
takes note of them. -/
theorem logged_of_connection {s : Step} {k : Connection} (hk : w.connection? s = some k)
    (ho : w.objection? k = none) (hcb : k.callback = some .logger) :
    w.logged s = (w.library k.route.gateway).chatter k.level ∧ (w.step s).events = [] ∧
      (w.step s).world.slots = w.slots.put k.route.slot (some .logger) := by
  have hran : w.ran s = ((w.library k.route.gateway).chatter k.level).map (⟨.logger, ·⟩) := by
    simp only [ran, hk, ranConnecting_of_no_objection ho, hcb]
    exact Delivery.ranAll_of_isLocal (Slots.get_put_self _ _ _) rfl _
  have hevents : (w.step s).events = [] := by
    rw [step_events, hran, Event.filter_isNoted_map_logger]
  have hk' : s.connection? w.gateways w.attached.isSome = some k := hk
  refine ⟨?_, hevents, ?_⟩
  · rw [logged, hran, Event.filterMap_logged?_map_logger]
  · rw [step_slots, hevents]
    simp only [Step.writes, hk', hcb]
    rfl

/-- What the log gets in the steps that can be taken in a state, where domains have these tags. -/
structure LogsEvents (w : World) (tag : Handle → String) : Prop where
  tags : ∀ handle, (w.step (.tag handle)).answer = .tag (tag handle)
  /-- In the course of any delivery, the logger leaves the slots as it finds them. -/
  called : ∀ depth slots c, Delivery.invokeAt w.filter w.captured depth slots .logger c =
    ⟨slots, [], c.entry w.filter tag⟩
  alone : ∀ c, w.step (.log c) = ⟨.done, w, [], c.wire.entry w.filter tag⟩
  held : ∀ {name c s answer}, w.Hands name c s answer → w.slots.get name = some .logger →
    w.step s = ⟨answer, w, [], c.wire.entry w.filter tag⟩
  handedOn : ∀ {name c s answer}, w.Hands name c s answer → w.slots.get name = some .nest →
    w.slots.shared = some .logger → 0 < c.level.raw.toInt →
      w.step s = ⟨answer, w, [⟨.nest, c.wire⟩], c.lower.wire.entry w.filter tag⟩
  /-- The log gets what the logger is given in a step, by the tags that are answered after it. -/
  stepped : ∀ s, ∃ tag',
    (∀ handle, ((w.step s).world.step (.tag handle)).answer = .tag (tag' handle)) ∧
    (w.connection? s = none → tag' = tag) ∧
    ((w.step s).records.filter fun r => r.target == .events) =
      (w.logged s).flatMap (Call.entry w.filter tag')
  connected : ∀ {s k}, w.connection? s = some k → w.objection? k = none →
    k.callback = some .logger →
      w.logged s = (w.library k.route.gateway).chatter k.level ∧ (w.step s).events = [] ∧
        (w.step s).world.slots = w.slots.put k.route.slot (some .logger)

theorem records_step_eq_entry (s : Step) :
    ((w.step s).records.filter fun r => r.target == .events) =
      (w.logged s).flatMap (Call.entry w.filter (capturedTag (w.step s).world.captured)) := by
  rw [step_records, ← Call.filter_flatMap_records, step_captured,
    funext (Call.records_eq_entry w.filter (w.capturedIn s))]
  refine List.filter_eq_self.2 fun r hr => ?_
  obtain ⟨c, -, hc⟩ := List.mem_flatMap.1 hr
  rw [← Call.records_eq_entry] at hc
  exact Call.admits_of_mem_records hc

/-- In every state, whatever way an event comes to the logger, the logger does nothing but make one
record of it, if the ceiling admits the severity of the event and events are not muted, and none
otherwise. The record is tagged as the domain is, and its text is the message up to the first zero
byte: all of it that is a text as it stands, and U+FFFD for what is not. -/
theorem logger_makes_one_record (w : World) :
    (∃ tag, w.LogsEvents tag) ∧
      (∀ c : Call, c.message = none → c.wire.body = "<null>") ∧
      (∀ (c : Call) (m : Bytes), c.message = some m →
        c.wire.body = Utf8.lossy (m.takeWhile (· != 0))) ∧
      Utf8.Faithful Utf8.lossy := by
  refine ⟨⟨capturedTag w.captured, ?_⟩, fun c h => ?_, fun c m h => ?_, Utf8.faithful_lossy⟩
  · refine ⟨fun _ => rfl, Delivery.invokeAt_logger w.filter w.captured, step_log w,
      fun h hs => ?_, fun h hs hn hl => ?_, fun s => ⟨capturedTag (w.step s).world.captured,
        fun _ => rfl, fun hk => ?_, records_step_eq_entry w s⟩, logged_of_connection w⟩
    · rw [h.step_eq, step_deliver_of_logger w hs]
    · rw [h.step_eq, step_deliver_of_nest w hs hn hl]
    · rw [step_captured, capturedIn, hk]
  · simp only [Call.body, Call.wire, h, Option.map_none]
  · simp only [Call.body, Call.wire, h, Option.map_some]

/-- An event that is handed on to the logger is logged one level lower, by the tag that was
captured, until events are muted. The byte that begins no character takes nothing of what follows
it. -/
theorem handed_on_event_is_logged :
    let w := (opened .stock [.inner ⟨⟨16⟩, ⟨32⟩, ⟨48⟩, ⟨64⟩, ⟨80⟩⟩ none]).after
      [.attachLog ⟨0, .shared⟩ .info, .put .left (some .nest), .setCeiling (some .warn)]
    let muted := (w.step (.setMuted ["litecore"])).world
    let c : Call := ⟨⟨32⟩, .error, some [0xC3, 0x28, 0, 0x41]⟩
    let cut : Call := ⟨⟨32⟩, .error, some [0xC3, 0x28]⟩
    w.slots.get .left = some .nest ∧ w.slots.shared = some .logger ∧ 0 < c.level.raw.toInt ∧
      w.step (.enter .left c) = ⟨.done, w, [⟨.nest, cut⟩], [⟨.warn, .events, "db \uFFFD("⟩]⟩ ∧
      muted.step (.enter .left c) = ⟨.done, muted, [⟨.nest, cut⟩], []⟩ := by
  intro w muted c cut
  have hleft : w.slots.get .left = some .nest := rfl
  have hshared : w.slots.shared = some .logger := rfl
  have hlevel : 0 < c.level.raw.toInt := by decide
  obtain ⟨⟨tag, hw⟩, -⟩ := logger_makes_one_record w
  obtain ⟨⟨tag', hm⟩, -⟩ := logger_makes_one_record muted
  have htag : tag c.lower.wire.domain = "db" := (Answer.tag.inj (hw.tags ⟨32⟩)).symm
  have hbody : c.lower.wire.body = "\uFFFD(" := by decide
  have hseverity : c.lower.wire.level.severity = .warn := by decide
  have hcut : c.wire = cut := by decide
  have hf : w.filter = ⟨some .warn, []⟩ := rfl
  have hfm : muted.filter = ⟨some .warn, ["litecore"]⟩ := rfl
  refine ⟨hleft, hshared, hlevel, ?_, ?_⟩
  · rw [hw.handedOn .enter hleft hshared hlevel, hcut, Call.entry, hf, if_pos (by decide)]
    have htext : "db" ++ " " ++ "\uFFFD(" = "db \uFFFD(" := by decide
    rw [hbody, htag, htext, hseverity]
  · rw [hm.handedOn .enter hleft hshared hlevel, hcut, Call.entry, hfm, if_neg (by decide)]

end World

end Switchboard
