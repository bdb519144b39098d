import Switchboard.Proofs.Registry

/-!
# Connecting a route

A route is connected in two halves: its slot is filled, and then it is registered. The first half is
always done. The second is refused for two reasons only (`objection?_eq_none_iff`): a library of the
program may refuse registrations, and the level may be unknown. The way to register with an opened
library was found when it was opened, and it is never missing later (`Wired.image_objection?`).

A refusal is the gateway's own, and then the new callback is all that has changed. A registration
that is taken is counted by one library, and what happens besides comes of the events that the
library logs meanwhile. However a route is connected or disconnected, it is connected like this.
-/

namespace Switchboard

namespace GatewayKind

variable {kind : GatewayKind} {lib : Library} {level : Level}

theorem objection?_eq_none_iff (hi : ∀ path, kind = .opened path → lib.image.objection? = none) :
    kind.objection? lib level = none ↔
      (kind = .inner ∨ kind = .bare → lib.refusal = none) ∧
        (kind ≠ .bare → level.isKnown = true) := by
  cases kind with
  | inner => simp [objection?]
  | bare => simp [objection?]
  | linked => simp [objection?]
  | opened path => simp [objection?, hi path rfl]

/-- An objection is the refusal of a library of the program, or else it is to the level. -/
theorem objection?_eq_some (hi : ∀ path, kind = .opened path → lib.image.objection? = none)
    {fault : Fault} (h : kind.objection? lib level = some fault) :
    (kind = .inner ∨ kind = .bare) ∧ lib.refusal = some fault ∨
      kind ≠ .bare ∧ (kind = .inner → lib.refusal = none) ∧ level.isKnown = false ∧
        fault = .unknownLevel level := by
  cases kind with
  | inner =>
    rcases hr : lib.refusal with _ | refusal
    · simp only [objection?, hr, Option.none_or, Option.ite_none_left_eq_some] at h
      exact .inr ⟨by simp, fun _ => rfl, by simpa using h.1, (Option.some.inj h.2).symm⟩
    · simp only [objection?, hr, Option.some_or] at h
      exact .inl ⟨.inl rfl, h⟩
  | bare => exact .inl ⟨.inr rfl, h⟩
  | linked =>
    simp only [objection?, Option.ite_none_left_eq_some] at h
    exact .inr ⟨by simp, by simp, by simpa using h.1, (Option.some.inj h.2).symm⟩
  | opened path =>
    simp only [objection?, hi path rfl, Option.or_none, Option.ite_none_left_eq_some] at h
    exact .inr ⟨by simp, by simp, by simpa using h.1, (Option.some.inj h.2).symm⟩

end GatewayKind

namespace World

variable {files : FileTree} {w : World} {g : Gateway}

theorem Wired.image_objection? (h : w.Wired files) (hg : w.HasGateway g) {path : Bytes}
    (hk : g.kind = .opened path) : (w.library g).image.objection? = none := by
  rcases hg with hm | rfl
  · obtain ⟨i, hi⟩ := List.getElem?_of_mem hm
    cases h.gateways i g hi with
    | opened path place => exact (h.opened _ hm place rfl).2
    | inner | bare | linked => cases hk
  · cases hk

theorem verdict_eq_ok_iff {k : Connection} : w.verdict k = .ok () ↔ w.objection? k = none := by
  unfold verdict
  rcases w.objection? k with _ | fault
  · exact iff_of_true rfl rfl
  · exact iff_of_false nofun nofun

theorem verdict_eq_error_iff {k : Connection} {fault : Fault} :
    w.verdict k = .error fault ↔ w.objection? k = some fault := by
  unfold verdict
  rcases w.objection? k with _ | f
  · exact iff_of_false nofun nofun
  · rw [Except.error.injEq, Option.some.injEq]

theorem ranConnecting_of_no_objection {k : Connection} (h : w.objection? k = none) :
    w.ranConnecting k = Delivery.ranAll k.route.slot (w.slots.put k.route.slot k.callback)
      ((w.library k.route.gateway).chatter k.level) := by
  simp only [ranConnecting, h]

/-- Connecting a route fills its slot whether or not the library takes the registration. It takes it
unless it is part of the program and refuses, or the level is unknown and the gateway not bare. On
success this library counts the registration and holds it, no other changes, and the rest is what
delivering the library's own events to the new callback does. On a refusal the fault is the gateway's
own, no library changes and no callback is called. A record is logged before and a warning after a
refusal. To disconnect is to connect to nothing, to connect a gateway is to connect it through the
shared slot, and the linked library is so connected too, though nothing is answered and a refusal is
logged once more. -/
theorem connect_in_two_halves (files : FileTree) (specs : List GatewaySpec) (steps : List Step)
    {g : Gateway} (hg : (opened files specs).HasGateway g) (slot : SlotName) (level : Level)
    (cb : Option Callback) :
    let start := opened files specs
    let w := start.after steps
    let lib := w.library g
    let known := 0 ≤ level.raw.toInt ∧ level.raw.toInt ≤ 5
    let o := w.connect ⟨g, slot⟩ level cb
    let own := Delivery.deliverAll w.filter w.captured slot (w.slots.put slot cb)
      (lib.chatter level)
    let verb := if cb.isSome then "Installing" else "Clearing"
    let opening : Record := ⟨.debug, .route, verb ++ " log callback at level " ++ level.display⟩
    let warning (fault : Fault) : Record :=
      ⟨.warn, .route, "Logging facility rejected callback registration: " ++ fault.message⟩
    let kept (records : List Record) := records.filter fun r => w.filter.admits r.severity
    (o.answer = .ok () ↔
        (g.kind = .inner ∨ g.kind = .bare → lib.refusal = none) ∧ (g.kind ≠ .bare → known)) ∧
      (∀ fault, o.answer = .error fault →
        (g.kind = .inner ∨ g.kind = .bare) ∧ lib.refusal = some fault ∨
          g.kind ≠ .bare ∧ (g.kind = .inner → lib.refusal = none) ∧ ¬ known ∧
            fault = .unknownLevel level) ∧
      (o.answer = .ok () →
        (∀ id, o.world.libraries id =
          if id = g.library then
            { lib with accepted := lib.accepted + 1, current := some ⟨level, slot, true⟩ }
          else w.libraries id) ∧
        o.world = { w with slots := own.slots, libraries := o.world.libraries } ∧
        o.events = own.events ∧ o.records = opening :: own.records) ∧
      (∀ fault, o.answer = .error fault →
        o = ⟨.error fault, w.put slot cb, [], [opening, warning fault]⟩ ∧
          o.world.libraries = w.libraries ∧ o.world.slots.get slot = cb) ∧
      (∀ i, start.gateways[i]? = some g →
        w.step (.connect ⟨i, slot⟩ level cb) =
            ⟨.result o.answer, o.world, o.events, kept o.records⟩ ∧
          w.step (.disconnect ⟨i, slot⟩ level) = w.step (.connect ⟨i, slot⟩ level none) ∧
          w.step (.connectShared i level cb) = w.step (.connect ⟨i, .shared⟩ level cb)) ∧
      (g = .linked → slot = .shared →
        (o.answer = .ok () →
          w.step (.connectLinked level cb) = ⟨.done, o.world, o.events, kept o.records⟩) ∧
        ∀ fault, o.answer = .error fault →
          w.step (.connectLinked level cb) = ⟨.done, o.world, [], kept [opening, warning fault,
            ⟨.warn, .entry, "c4log_setRustCallback(" ++ level.display ++ ") failed: " ++
              fault.message⟩]⟩) := by
  intro start w lib known o own verb opening warning kept
  let k : Connection := ⟨⟨g, slot⟩, level, cb⟩
  have hw : w.Wired files := (wired_opened files specs).after steps
  have hi : ∀ path, g.kind = .opened path → lib.image.objection? = none :=
    fun _ hk => hw.image_objection? (hg.after steps) hk
  have hknown : level.isKnown = true ↔ known := Level.isKnown_iff
  have hanswer : o.answer = w.verdict k := connect_answer w k
  have hok : o.answer = .ok () → o = (Outcome.ofRan (.ok ())
      ((w.put slot cb).setLibrary g.library (lib.accept ⟨level, slot, true⟩))
      (w.ranConnecting k)).logBefore [opening] := by
    rw [hanswer, verdict_eq_ok_iff]
    exact connect_of_no_objection w
  have herror : ∀ fault, o.answer = .error fault →
      o = ⟨.error fault, w.put slot cb, [], [opening, warning fault]⟩ := by
    intro fault
    rw [hanswer, verdict_eq_error_iff]
    exact connect_of_objection w
  refine ⟨?_, fun fault h => ?_, fun h => ⟨fun id => ?_, ?_⟩,
    fun fault h => ⟨herror fault h, ?_⟩, fun i hgi => ⟨?_, rfl, rfl⟩, ?_⟩
  · rw [hanswer, verdict_eq_ok_iff, ← hknown]
    exact GatewayKind.objection?_eq_none_iff hi
  · rw [hanswer, verdict_eq_error_iff] at h
    rw [← hknown, Bool.not_eq_true]
    exact GatewayKind.objection?_eq_some hi h
  · rw [hanswer, verdict_eq_ok_iff] at h
    rw [show o.world.libraries id = _ from connect_libraries w k id]
    by_cases hid : id = g.library
    · subst hid
      rw [if_pos rfl, accepts?, if_pos ⟨h, rfl⟩]
      rfl
    · rw [if_neg hid, accepts?, if_neg fun hk => hid hk.2]
      rfl
  · have hown : own = .ofRan w.filter w.captured (w.slots.put slot cb) (w.ranConnecting k) := by
      rw [hanswer, verdict_eq_ok_iff] at h
      rw [ranConnecting_of_no_objection h]
      exact Delivery.deliverAll_eq w.filter w.captured slot _ _
    rw [hok h, hown]
    exact ⟨rfl, rfl, rfl⟩
  · rw [herror fault h]
    exact ⟨rfl, Slots.get_put_self w.slots slot cb⟩
  · have hgw : w.gateways[i]? = some g := by rw [after_gateways, hgi]
    simp only [step, perform, withRoute, withGateway, hgw]
    rfl
  · rintro rfl rfl
    have hstep : w.step (.connectLinked level cb) =
        ⟨.done, (w.connectLinked level cb).world, (w.connectLinked level cb).events,
          kept (w.connectLinked level cb).records⟩ := rfl
    have ho : w.connect ⟨.linked, .shared⟩ level cb = o := rfl
    refine ⟨fun h => ?_, fun fault h => ?_⟩
    · rw [hstep, connectLinked, ho, h]
      show (⟨.done, o.world, o.events, kept (o.records ++ [])⟩ : Outcome Answer) = _
      rw [List.append_nil]
    · rw [hstep, connectLinked, ho, h, herror fault h]
      rfl

/-- A library of the program refuses before it looks at the level, and the callback is in the slot
all the same; the linked library is asked for an unknown level, and two warnings are logged. -/
theorem connect_refused_in_two_halves :
    let start := opened .stock [.inner .unresolved none]
    let steps : List Step := [.connect ⟨0, .left⟩ .info (some .first),
      .setRefusal 0 (some (.io OsError.permissionDenied.message))]
    let w := start.after steps
    let refusal : Fault := .io "Permission denied (os error 13)"
    start.HasGateway ⟨.inner, .own 0⟩ ∧ start.HasGateway .linked ∧
      start.gateways[0]? = some ⟨.inner, .own 0⟩ ∧
      (w.connect ⟨⟨.inner, .own 0⟩, .left⟩ ⟨99⟩ (some .second)).answer = .error refusal ∧
      w.step (.connect ⟨0, .left⟩ ⟨99⟩ (some .second)) =
        ⟨.result (.error refusal), w.put .left (some .second), [],
          [⟨.debug, .route, "Installing log callback at level level(99)"⟩,
            ⟨.warn, .route, "Logging facility rejected callback registration: " ++
              "IO error: Permission denied (os error 13)"⟩]⟩ ∧
      (w.connect ⟨.linked, .shared⟩ ⟨6⟩ none).answer = .error (.unknownLevel ⟨6⟩) ∧
      w.step (.connectLinked ⟨6⟩ none) =
        ⟨.done, w.put .shared none, [],
          [⟨.debug, .route, "Clearing log callback at level level(6)"⟩,
            ⟨.warn, .route,
              "Logging facility rejected callback registration: Invalid log level: 6"⟩,
            ⟨.warn, .entry,
              "c4log_setRustCallback(level(6)) failed: Invalid log level: 6"⟩]⟩ := by
  intro start steps w refusal
  have hg : start.gateways[0]? = some ⟨.inner, .own 0⟩ := by rfl
  have hi : start.HasGateway ⟨.inner, .own 0⟩ := .inl (List.mem_of_getElem? hg)
  have hl : start.HasGateway .linked := .inr rfl
  have ha : (w.connect ⟨⟨.inner, .own 0⟩, .left⟩ ⟨99⟩ (some .second)).answer = .error refusal := by
    rfl
  have hb : (w.connect ⟨.linked, .shared⟩ ⟨6⟩ none).answer = .error (.unknownLevel ⟨6⟩) := by rfl
  have hinner := connect_in_two_halves .stock _ steps hi .left ⟨99⟩ (some .second)
  have hlinked := connect_in_two_halves .stock _ steps hl .shared ⟨6⟩ none
  obtain ⟨-, -, -, hrefused, hsteps, -⟩ := hinner
  obtain ⟨-, -, -, hrefused', -, hentry⟩ := hlinked
  refine ⟨hi, hl, hg, ha, ?_, hb, ?_⟩
  · rw [(hsteps 0 hg).1, (hrefused refusal ha).1]
    rfl
  · rw [(hentry rfl rfl).2 _ hb, (hrefused' _ hb).1]
    rfl

end World

end Switchboard
