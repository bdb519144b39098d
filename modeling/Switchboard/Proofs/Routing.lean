import Mathlib.Data.List.TakeWhile
import Switchboard.Proofs.Runs

/-!
# Where events go

A route has two halves: the slot holds the callback, and the library holds the slot and the level
that it was given with the last registration it accepted. Connecting changes both halves, but a
refused registration changes only the first. So where a library delivers its events is decided by
the registrations it accepted in the history (`World.registrations`), and who receives them there by
what the slot holds at that moment.
-/

namespace Switchboard

theorem Call.wire_wire (c : Call) : c.wire.wire = c.wire := by
  obtain ⟨domain, level, message⟩ := c
  rcases message with _ | m
  · rfl
  · simp [Call.wire, List.takeWhile_idem]

namespace Library

variable {lib : Library} {level : Level}

theorem destination?_eq_some_iff {name : SlotName} :
    lib.destination? level = some name ↔
      ∃ r, lib.current = some r ∧ r.level ≤ level ∧ r.via = name := by
  unfold destination?
  rcases lib.current with _ | r
  · simp
  · by_cases h : r.level ≤ level <;> simp [h]

theorem destination?_of_current {r : Registration} (hr : lib.current = some r)
    (hl : r.level ≤ level) : lib.destination? level = some r.via :=
  destination?_eq_some_iff.2 ⟨r, hr, hl, rfl⟩

theorem destination?_eq_none_iff :
    lib.destination? level = none ↔ ¬ ∃ r, lib.current = some r ∧ r.level ≤ level := by
  rw [Option.eq_none_iff_forall_ne_some]
  constructor
  · rintro h ⟨r, hr, hl⟩
    exact h r.via (destination?_of_current hr hl)
  · intro h name hn
    obtain ⟨r, hr, hl, -⟩ := destination?_eq_some_iff.1 hn
    exact h ⟨r, hr, hl⟩

theorem destination?_congr {other : Library} (h : lib.current = other.current) :
    lib.destination? level = other.destination? level := by
  simp only [destination?, h]

end Library

namespace World

/-- The registrations that a library accepts in a run, the earliest first. -/
def registrations (id : LibraryId) : World → List Step → List Registration
  | _, [] => []
  | w, s :: steps => (w.registered? s id).toList ++ registrations id (w.step s).world steps

/-- A library is registered as it was asked to be by the last registration that it accepted. -/
theorem current_after (id : LibraryId) :
    ∀ (steps : List Step) (w : World), ((w.after steps).libraries id).current =
      (registrations id w steps).getLast?.or (w.libraries id).current
  | [], _ => rfl
  | s :: steps, w => by
    rw [after_cons, current_after id steps, step_current, registrations, List.getLast?_append]
    rcases w.registered? s id with _ | r
    · simp
    · simp

theorem current_opened_after (files : FileTree) (specs : List GatewaySpec) (steps : List Step)
    (id : LibraryId) :
    (((opened files specs).after steps).libraries id).current =
      (registrations id (opened files specs) steps).getLast? := by
  obtain ⟨image, handles, refusal, h⟩ := (fresh_opened files specs).libraries id
  rw [current_after, h]
  exact Option.or_none

section Emission

variable (w : World) {i : Nat} {g : Gateway} {c : Call}

theorem destination?_of_gateway (hg : w.gateways[i]? = some g) (level : Level) :
    w.destination? i level = (w.library g).destination? level := by
  simp only [destination?, hg, Option.bind_some]

/-- An event that a library delivers is delivered to one slot, and nothing else happens. -/
theorem step_emit_of_destination {name : SlotName} (hg : w.gateways[i]? = some g)
    (hd : (w.library g).destination? c.level = some name) :
    w.step (.emit i c) = { w.step (.deliver name c) with answer := .delivered true } := by
  have hd' : (w.library g).destination? c.wire.level = some name := hd
  simp only [step, perform, withGateway, hg, emit, hd']
  rfl

theorem step_emit_of_no_destination (hg : w.gateways[i]? = some g)
    (hd : (w.library g).destination? c.level = none) :
    w.step (.emit i c) = .plain (.delivered false) w := by
  have hd' : (w.library g).destination? c.wire.level = none := hd
  simp only [step, perform, withGateway, hg, emit, hd']
  rfl

/-- Whether an event is delivered is decided by the library alone. -/
theorem step_emit_answer (hg : w.gateways[i]? = some g) :
    (w.step (.emit i c)).answer = .delivered ((w.library g).destination? c.level).isSome := by
  rcases hd : (w.library g).destination? c.level with _ | name
  · rw [step_emit_of_no_destination w hg hd]
    rfl
  · rw [step_emit_of_destination w hg hd]
    rfl

theorem step_deliver_wire (name : SlotName) (c : Call) :
    w.step (.deliver name c.wire) = w.step (.deliver name c) := by
  simp only [step, perform, Call.wire_wire]

theorem step_deliver_of_first_or_second {name : SlotName} {cb : Callback}
    (hcb : cb = .first ∨ cb = .second) (hs : w.slots.get name = some cb) :
    w.step (.deliver name c) = ⟨.done, w, [⟨cb, c.wire⟩], []⟩ := by
  have hl : cb.isLocal = true := by rcases hcb with rfl | rfl <;> rfl
  have hran : Delivery.ran w.slots name c.wire = [⟨cb, c.wire⟩] := by
    simp only [Delivery.ran, hs]
    exact Delivery.ranAt_of_isLocal w.slots _ hl c.wire
  simp only [step, perform, deliver_eq, hran]
  rcases hcb with rfl | rfl
  · rfl
  · rfl

theorem step_deliver_of_empty {name : SlotName} (hs : w.slots.get name = none) :
    w.step (.deliver name c) = .plain .done w := by
  have hran : Delivery.ran w.slots name c.wire = [] := by
    simp only [Delivery.ran, hs]
  simp only [step, perform, deliver_eq, hran]
  rfl

/-- A step that is answered by a fault registers nothing. -/
theorem registered?_of_answer {s : Step} {fault : Fault}
    (h : (w.step s).answer = .result (.error fault)) (id : LibraryId) :
    w.registered? s id = none := by
  unfold registered?
  rcases hk : w.connection? s with _ | k
  · rfl
  · have ho : w.objection? k ≠ none := by
      intro ho
      have hv := eq_verdict_of_answer w hk h
      simp only [verdict, ho] at hv
      cases hv
    simp only [Option.bind_some, accepts?, ho, false_and, if_false]

end Emission

/-- The first callback that an emitted event reaches is the one held by the slot that its library is
registered with. -/
theorem head?_ran_emit (w : World) {i : Nat} {g : Gateway} {c : Call} {name : SlotName}
    (hg : w.gateways[i]? = some g) (hd : (w.library g).destination? c.level = some name) :
    (w.ran (.emit i c)).head? = (w.slots.get name).map (⟨·, c.wire⟩) := by
  have hr : w.ran (.emit i c) = Delivery.ran w.slots name c.wire := by
    simp only [ran, connection?, Step.connection?, ranApart, destination?_of_gateway w hg, hd]
  rw [hr, Delivery.head?_ran]

/-- An event is delivered if its library has accepted a registration, and the event is at or above
the level of the last one. It then goes to the slot of that registration, its message cut at the
first zero byte, and to whatever that slot holds by now. What other slots hold makes no difference
to where it goes, and neither does a registration that was refused. -/
theorem emit_follows_last_registration (files : FileTree) (specs : List GatewaySpec)
    (steps : List Step) {i : Nat} {g : Gateway} (hg : (opened files specs).gateways[i]? = some g)
    (c : Call) :
    let w := (opened files specs).after steps
    let last := (registrations g.library (opened files specs) steps).getLast?
    let cut : Call := ⟨c.domain, c.level, c.message.map fun m => m.takeWhile (· != 0)⟩
    let o := w.step (.emit i c)
    (o.answer = .delivered true ↔ ∃ r, last = some r ∧ r.level ≤ c.level) ∧
      (o.answer ≠ .delivered true → o = .plain (.delivered false) w) ∧
      (∀ r, last = some r → r.level ≤ c.level →
        o = { w.step (.deliver r.via cut) with answer := .delivered true } ∧
          (∀ cb, cb = .first ∨ cb = .second → w.slots.get r.via = some cb →
            o = ⟨.delivered true, w, [⟨cb, cut⟩], []⟩) ∧
          (w.slots.get r.via = none → o = .plain (.delivered true) w) ∧
          ∀ slots : Slots, slots.get r.via = w.slots.get r.via →
            (({ w with slots := slots } : World).ran (.emit i c)).head? =
              (w.slots.get r.via).map (⟨·, cut⟩)) ∧
      (∀ slots : Slots, (({ w with slots := slots } : World).step (.emit i c)).answer = o.answer) ∧
      ∀ s fault, (w.step s).answer = .result (.error fault) →
        ∀ level, (w.step s).world.destination? i level = w.destination? i level := by
  intro w last cut o
  have hg' : w.gateways[i]? = some g := by rw [after_gateways, hg]
  have hlast : (w.library g).current = last := current_opened_after files specs steps g.library
  have hcut : cut.wire = cut := Call.wire_wire c
  have hto : ∀ r, last = some r → r.level ≤ c.level →
      (w.library g).destination? c.level = some r.via :=
    fun r hr hl => Library.destination?_of_current (hlast.trans hr) hl
  have hdel : ∀ r, last = some r → r.level ≤ c.level →
      o = { w.step (.deliver r.via cut) with answer := .delivered true } := by
    intro r hr hl
    show o = { w.step (.deliver r.via c.wire) with answer := .delivered true }
    rw [step_deliver_wire]
    exact step_emit_of_destination w hg' (hto r hr hl)
  have hno : (¬ ∃ r, last = some r ∧ r.level ≤ c.level) → o = .plain (.delivered false) w := by
    rw [← hlast]
    exact fun h => step_emit_of_no_destination w hg' (Library.destination?_eq_none_iff.2 h)
  have hiff : o.answer = .delivered true ↔ ∃ r, last = some r ∧ r.level ≤ c.level := by
    refine ⟨fun ha => ?_, fun ⟨r, hr, hl⟩ => by rw [hdel r hr hl]⟩
    by_contra hn
    rw [hno hn] at ha
    cases ha
  refine ⟨hiff, fun ha => hno fun h => ha (hiff.2 h), fun r hr hl => ⟨hdel r hr hl, ?_, ?_, ?_⟩,
    fun slots => ?_, fun s fault hs level => ?_⟩
  · intro cb hcb hs
    rw [hdel r hr hl, step_deliver_of_first_or_second w hcb hs, hcut]
  · intro hs
    rw [hdel r hr hl, step_deliver_of_empty w hs]
    rfl
  · intro slots hs
    rw [head?_ran_emit { w with slots := slots } hg' (hto r hr hl)]
    exact congrArg _ hs
  · rw [step_emit_answer { w with slots := slots } hg', step_emit_answer w hg']
    rfl
  · have hc : ((w.step s).world.library g).current = (w.library g).current := by
      show ((w.step s).world.libraries g.library).current = _
      rw [step_current, registered?_of_answer w hs]
      rfl
    have hgs : (w.step s).world.gateways[i]? = some g := by rw [step_gateways, hg']
    rw [destination?_of_gateway _ hgs, destination?_of_gateway _ hg', Library.destination?_congr hc]

/-- A refused registration through another slot does not redirect a library: its events still go to
the slot of the last registration that it accepted. -/
theorem emit_after_refused_registration :
    let w := (opened .stock [.inner .unresolved none]).after
      [.connect ⟨0, .left⟩ .info (some .first), .setRefusal 0 (some (.refused "busy")),
        .connect ⟨0, .shared⟩ .debug (some .second)]
    (opened .stock [.inner .unresolved none]).gateways[0]? = some ⟨.inner, .own 0⟩ ∧
      w.step (.emit 0 ⟨⟨16⟩, .warning, some [104, 105, 0, 104]⟩) =
        ⟨.delivered true, w, [⟨.first, ⟨⟨16⟩, .warning, some [104, 105]⟩⟩], []⟩ := by
  refine ⟨rfl, ?_⟩
  have h := emit_follows_last_registration .stock [.inner .unresolved none]
    [.connect ⟨0, .left⟩ .info (some .first), .setRefusal 0 (some (.refused "busy")),
      .connect ⟨0, .shared⟩ .debug (some .second)] (i := 0) rfl
    ⟨⟨16⟩, .warning, some [104, 105, 0, 104]⟩
  obtain ⟨-, -, hto, -⟩ := h
  exact (hto ⟨.info, .left, true⟩ rfl (by decide)).2.1 .first (.inl rfl) rfl

end World

end Switchboard
