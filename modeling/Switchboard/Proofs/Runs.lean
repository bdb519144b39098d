import Switchboard.Opening
import Switchboard.Proofs.Effects

/-!
# Runs from a fresh process

A process starts with the gateways that could be opened, and with nothing in its slots, nothing
captured and nothing registered (`Fresh`). What a step does (`follows_perform`) is carried along a
run here, for the parts of the state whose history is simple: the gateways stay as they are, and
whether attaching the log once has been tried is seen from the steps alone.
-/

namespace Switchboard

namespace World

section Step

variable (w : World)

theorem step_events (s : Step) : (w.step s).events = (w.ran s).filter Event.isNoted :=
  (follows_perform w s).events

theorem step_slots (s : Step) :
    (w.step s).world.slots =
      w.slots.write (s.writes w.gateways w.attached.isSome ++
        (w.step s).events.flatMap Event.writes) := by
  rw [step_events, Event.flatMap_writes_filter_isNoted]
  exact (follows_perform w s).slots

/-- The records of events that a step leaves are those of the events that the logger is given, as
far as the filter keeps them. -/
theorem step_records (s : Step) :
    ((w.step s).records.filter fun r => r.target == .events) =
      (((w.logged s).map (Call.toRecord (w.capturedIn s))).filter w.filter.keeps) := by
  have hf : ((w.perform s).records.filter fun r => r.target == .events) =
      (w.logged s).flatMap (Call.records w.filter (w.capturedIn s)) := (follows_perform w s).records
  rw [← Call.filter_flatMap_records, ← hf, step, List.filter_filter, List.filter_filter]
  simp only [Bool.and_comm]

theorem step_captured (s : Step) : (w.step s).world.captured = w.capturedIn s :=
  (follows_perform w s).captured

theorem triesOnce_of_attaches_eq_none {gateways : List Gateway}
    {s : Step} (h : s.attaches? gateways = none) : s.triesOnce gateways = false := by
  cases s with
  | attachLogOnce r level =>
    have hg : gateways[r.gateway]? = none := h
    simp only [Step.triesOnce, RouteRef.resolve?, hg]
    rfl
  | _ => rfl

theorem connection?_of_attaches {s : Step} {g : Gateway} (ha : w.attached = none)
    (h : s.attaches? w.gateways = some g) :
    ∃ k, w.connection? s = some k := by
  cases s with
  | attachLog r level =>
    have hg : w.gateways[r.gateway]? = some g := h
    simp only [connection?, Step.connection?, RouteRef.resolve?, hg, Option.map_some]
    exact ⟨_, rfl⟩
  | attachLogOnce r level =>
    have hg : w.gateways[r.gateway]? = some g := h
    simp only [connection?, Step.connection?, RouteRef.resolve?, hg, ha, Option.map_some]
    exact ⟨_, rfl⟩
  | _ => cases h

theorem step_attached (s : Step) :
    (w.step s).world.attached = w.attachedAfter s :=
  (follows_perform w s).attached

theorem step_attached_isSome (s : Step) :
    (w.step s).world.attached.isSome = (w.attached.isSome || s.triesOnce w.gateways) := by
  rw [step_attached, attachedAfter, Option.isSome_or]
  rcases ha : w.attached with _ | kept
  · by_cases hs : s.triesOnce w.gateways = true
    · have hne : s.attaches? w.gateways ≠ none := by
        intro h
        rw [triesOnce_of_attaches_eq_none h] at hs
        cases hs
      obtain ⟨g, hg⟩ := Option.ne_none_iff_exists'.1 hne
      obtain ⟨k, hk⟩ := connection?_of_attaches w ha hg
      simp [hs, hk]
    · simp [hs]
  · rfl

theorem step_current (s : Step) (id : LibraryId) :
    ((w.step s).world.libraries id).current =
      (w.registered? s id).or (w.libraries id).current := by
  obtain ⟨lib, ht, hl⟩ := (follows_perform w s).libraries id
  rw [show (w.step s).world.libraries id = _ from hl, ← ht.kept.2.2]
  rcases w.registered? s id with _ | r
  · rfl
  · rfl

theorem step_gateways (s : Step) : (w.step s).world.gateways = w.gateways :=
  (follows_perform w s).gateways

theorem after_cons (s : Step) (steps : List Step) :
    w.after (s :: steps) = (w.step s).world.after steps :=
  rfl

end Step

theorem after_gateways : ∀ (steps : List Step) (w : World), (w.after steps).gateways = w.gateways
  | [], _ => rfl
  | s :: steps, w => by
    rw [after_cons, after_gateways steps, step_gateways]

theorem after_attached :
    ∀ (steps : List Step) (w : World), (w.after steps).attached.isSome =
      (w.attached.isSome || steps.any (Step.triesOnce w.gateways))
  | [], w => (Bool.or_false _).symm
  | s :: steps, w => by
    rw [after_cons, after_attached steps, step_attached_isSome, step_gateways, List.any_cons,
      Bool.or_assoc]

/-- Nothing has happened in a process so far. -/
structure Fresh (w : World) : Prop where
  slots : w.slots = .empty
  captured : w.captured = none
  attached : w.attached = none
  filter : w.filter = .everything
  libraries : ∀ id, ∃ image handles refusal, w.libraries id = .fresh image handles refusal

/-- A process with the gateways that could be opened, before its first step. -/
def opened (files : FileTree) (specs : List GatewaySpec) : World :=
  (World.initial.openAll files specs).world

theorem Fresh.addGateway {w : World} (h : w.Fresh) (g : Gateway) {image : Image} {handles : Domains}
    {refusal : Option Fault} : (w.addGateway g (.fresh image handles refusal)).Fresh := by
  refine ⟨h.slots, h.captured, h.attached, h.filter, fun id => ?_⟩
  by_cases hid : id = g.library
  · subst hid
    exact ⟨image, handles, refusal, setLibrary_libraries_self w _ _⟩
  · obtain ⟨image', handles', refusal', hl⟩ := h.libraries id
    exact ⟨image', handles', refusal', (setLibrary_libraries_of_ne w hid _).trans hl⟩

theorem Fresh.openGateway {w : World} (h : w.Fresh) (files : FileTree) (spec : GatewaySpec) :
    (w.openGateway files spec).world.Fresh := by
  cases spec with
  | inner handles refusal => exact h.addGateway _
  | bare refusal => exact h.addGateway _
  | linked handles =>
    obtain ⟨image, handles', refusal, hl⟩ := h.libraries Gateway.linked.library
    simp only [World.openGateway, library, hl]
    exact h.addGateway _
  | opened path handles =>
    simp only [World.openGateway]
    split
    · exact h
    · rename_i opened records _
      obtain ⟨image, handles', refusal, hl⟩ := h.libraries (opened.gateway path).library
      simp only [addOpened, library, hl]
      exact h.addGateway _

theorem Fresh.openAll (files : FileTree) :
    ∀ (specs : List GatewaySpec) {w : World}, w.Fresh → (w.openAll files specs).world.Fresh
  | [], _, h => h
  | spec :: specs, _, h => Fresh.openAll files specs (h.openGateway files spec)

theorem fresh_opened (files : FileTree) (specs : List GatewaySpec) : (opened files specs).Fresh :=
  Fresh.openAll files specs ⟨rfl, rfl, rfl, rfl, fun _ => ⟨_, _, _, rfl⟩⟩

end World

end Switchboard
