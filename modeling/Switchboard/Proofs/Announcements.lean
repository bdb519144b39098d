import Switchboard.Proofs.Acceptance
import Switchboard.Proofs.Levels

/-!
# Events that are logged during a registration

A talkative library logs events while it is registered, when the slot already holds the new callback
and the registration is in force. So these events are delivered as they would be one after the other
afterwards (`isDeliveries_connect`), and what the slot held before makes no difference. Each event
meets the slots as the ones before it left them: a callback that leaves the shared slot alone
receives them all, one that empties or replaces what it is called from receives the first alone.

The domains are captured before a route is connected to the logger, so that the records of these
events are tagged already.
-/

namespace Switchboard

theorem Slots.put_put (s : Slots) (name : SlotName) (old new : Option Callback) :
    (s.put name old).put name new = s.put name new := by
  cases name <;> rfl

namespace Delivery

variable {slots : Slots} {name : SlotName}

theorem ranAll_of_empty (h : slots.get name = none) : ∀ cs : List Call, ranAll name slots cs = []
  | [] => rfl
  | c :: cs => by
    have hc : ran slots name c = [] := by simp only [ran, h]
    simp only [ranAll, hc, List.nil_append, List.flatMap_nil]
    exact ranAll_of_empty h cs

/-- A callback that leaves the shared slot alone receives every event. -/
theorem ranAll_of_isLocal {cb : Callback} (h : slots.get name = some cb) (hl : cb.isLocal = true) :
    ∀ cs : List Call, ranAll name slots cs = cs.map (⟨cb, ·⟩)
  | [] => rfl
  | c :: cs => by
    have hc : ran slots name c = [⟨cb, c⟩] := by
      simp only [ran, h]
      exact ranAt_of_isLocal slots _ hl c
    have hw : ([⟨cb, c⟩] : List Event).flatMap Event.writes = [] := by
      cases cb with
      | clear | replace | nest => cases hl
      | _ => rfl
    simp only [ranAll, hc, hw, List.map_cons, List.singleton_append]
    exact congrArg _ (ranAll_of_isLocal h hl cs)

/-- A callback that empties the slot that it is called from receives one event. -/
theorem ranAll_clear (c : Call) (cs : List Call) :
    ranAll .shared (slots.put .shared (some .clear)) (c :: cs) = [⟨.clear, c⟩] := by
  have hc : ran (slots.put .shared (some .clear)) .shared c = [⟨.clear, c⟩] := by
    simp only [ran, Slots.get_put_self]
    cases c.level.depth <;> rfl
  rw [ranAll, hc, ranAll_of_empty (by rfl), List.append_nil]

/-- A callback that replaces itself receives one event, and the other callback the rest. -/
theorem ranAll_replace (c : Call) (cs : List Call) :
    ranAll .shared (slots.put .shared (some .replace)) (c :: cs) =
      ⟨.replace, c⟩ :: cs.map (⟨.first, ·⟩) := by
  have hc : ran (slots.put .shared (some .replace)) .shared c = [⟨.replace, c⟩] := by
    simp only [ran, Slots.get_put_self]
    cases c.level.depth <;> rfl
  have hfirst : ((slots.put .shared (some .replace)).write
      (([⟨.replace, c⟩] : List Event).flatMap Event.writes)).get .shared = some .first := rfl
  rw [ranAll, hc, ranAll_of_isLocal hfirst rfl]
  rfl

end Delivery

namespace Library

variable {lib : Library} {level : Level}

theorem chatter_of_not_talkative (h : lib.image.talkative = false) : lib.chatter level = [] := by
  simp only [chatter, h, Bool.false_eq_true, if_false]

/-- What a library leaves out when it is registered at a higher level are the first of its events. -/
theorem chatter_eq_drop (h : lib.image.talkative = true) (hl : level.isKnown = true) :
    lib.chatter level = (lib.chatter .debug).drop level.depth := by
  rcases Level.eq_of_isKnown hl with rfl | rfl | rfl | rfl | rfl | rfl
  all_goals
    simp only [chatter, h, if_true]
    rfl

/-- A talkative library logs one event for each known level from that of the registration on. -/
theorem levels_chatter (h : lib.image.talkative = true) (hl : level.isKnown = true) :
    (lib.chatter level).map (·.level) =
      (List.range' level.depth (6 - level.depth)).map fun n => ⟨Int8.ofNat n⟩ := by
  rcases Level.eq_of_isKnown hl with rfl | rfl | rfl | rfl | rfl | rfl
  all_goals
    simp only [chatter, h, if_true]
    rfl

theorem chatter_ne_nil (h : lib.image.talkative = true) (hl : level.isKnown = true) :
    lib.chatter level ≠ [] := by
  intro hnil
  have hlength := congrArg List.length (levels_chatter h hl)
  have hmost := (Level.isKnown_iff.1 hl).2
  rw [hnil, List.map_nil, List.length_nil, List.length_map, List.length_range', Level.depth]
    at hlength
  omega

theorem wire_of_mem_chatter {c : Call} (h : c ∈ lib.chatter level) : c.wire = c := by
  have htext : chatterText.takeWhile (· != 0) = chatterText := by rfl
  unfold chatter at h
  split at h
  · have h := (List.mem_filter.1 h).1
    simp only [List.mem_cons, List.not_mem_nil, or_false] at h
    rcases h with rfl | rfl | rfl | rfl | rfl | rfl
    all_goals simp only [Call.wire, Option.map_some, Option.map_none, htext]
  · cases h

end Library

namespace Event

theorem filter_isNoted_of_ne {ran : List Event} (h : ∀ e ∈ ran, e.callback ≠ .logger) :
    ran.filter isNoted = ran := by
  refine List.filter_eq_self.2 fun e he => ?_
  simpa [isNoted] using h e he

theorem filterMap_logged?_of_ne {ran : List Event} (h : ∀ e ∈ ran, e.callback ≠ .logger) :
    ran.filterMap logged? = [] :=
  List.filterMap_eq_nil_iff.2 fun e he => if_neg (h e he)

theorem filter_isNoted_map_logger (cs : List Call) :
    (cs.map (⟨.logger, ·⟩)).filter isNoted = [] := by
  refine List.filter_eq_nil_iff.2 fun e he => ?_
  obtain ⟨c, -, rfl⟩ := List.mem_map.1 he
  exact Bool.false_ne_true

theorem filterMap_logged?_map_logger (cs : List Call) :
    (cs.map (⟨.logger, ·⟩)).filterMap logged? = cs := by
  rw [List.filterMap_map]
  exact List.filterMap_some

end Event

namespace World

/-- An outcome is, after some records, that of delivering events to a slot one after the other. -/
structure IsDeliveries (v : World) (name : SlotName) (cs : List Call) (before : List Record)
    (o : Outcome Answer) : Prop where
  world : o.world = v.after (cs.map (.deliver name))
  events : o.events = (v.run (cs.map (.deliver name))).flatMap Outcome.events
  records : o.records = before ++ (v.run (cs.map (.deliver name))).flatMap Outcome.records

/-- A run of deliveries is told by the callbacks that run in it. -/
theorem run_deliver (name : SlotName) : ∀ (cs : List Call) (v : World), (∀ c ∈ cs, c.wire = c) →
    let ran := Delivery.ranAll name v.slots cs
    let steps := cs.map (Step.deliver name)
    v.after steps = { v with slots := v.slots.write (ran.flatMap Event.writes) } ∧
      (v.run steps).flatMap Outcome.events = ran.filter Event.isNoted ∧
      (v.run steps).flatMap Outcome.records =
        ((ran.filterMap Event.logged?).flatMap (Call.records v.filter v.captured)).filter
          fun r => v.filter.admits r.severity
  | [], _, _ => ⟨rfl, rfl, rfl⟩
  | c :: cs, v, h => by
    have hc : c.wire = c := h c List.mem_cons_self
    have hstep : v.step (.deliver name c) =
        { Outcome.ofRan Answer.done v (Delivery.ran v.slots name c) with
          records := ((Outcome.ofRan () v (Delivery.ran v.slots name c)).records).filter
            fun r => v.filter.admits r.severity } := by
      simp only [step, perform, hc, deliver_eq]
      rfl
    obtain ⟨hworld, hevents, hrecords⟩ := run_deliver name cs (v.step (.deliver name c)).world
      fun c' hc' => h c' (List.mem_cons_of_mem _ hc')
    simp only [List.map_cons, after_cons, run, List.flatMap_cons, hworld, hevents, hrecords]
    simp only [hstep, Delivery.ranAll, List.flatMap_append, List.filter_append,
      List.filterMap_append, Slots.write_append]
    exact ⟨rfl, rfl, rfl⟩

section Connecting

variable (w : World)

/-- What a step shows of an outcome: of its records those that the filter admits. -/
def shown (o : Outcome (Except Fault Unit)) : Outcome Answer :=
  ⟨.result o.answer, o.world, o.events, o.records.filter fun r => w.filter.admits r.severity⟩

/-- The state in which a slot holds a callback and a library has taken its registration. -/
def taken (g : Gateway) (slot : SlotName) (level : Level) (cb : Option Callback) : World :=
  (w.put slot cb).setLibrary g.library
    { w.library g with
      accepted := (w.library g).accepted + 1
      current := some ⟨level, slot, true⟩ }

/-- A registration that is taken does what deliveries of the library's own events do afterwards. -/
theorem isDeliveries_connect {g : Gateway} {slot : SlotName} {level : Level} {cb : Option Callback}
    (ho : w.objection? ⟨⟨g, slot⟩, level, cb⟩ = none) :
    IsDeliveries (w.taken g slot level cb) slot ((w.library g).chatter level)
      ([connectRecord level cb].filter fun r => w.filter.admits r.severity)
      (w.shown (w.connect ⟨g, slot⟩ level cb)) := by
  have hran := ranConnecting_of_no_objection ho
  obtain ⟨hworld, hevents, hrecords⟩ := run_deliver slot ((w.library g).chatter level)
    (w.taken g slot level cb) fun c hc => Library.wire_of_mem_chatter hc
  have hconnect := connect_of_no_objection w ho
  simp only at hconnect hran
  refine ⟨?_, ?_, ?_⟩
  · rw [hworld, hconnect, hran]
    rfl
  · rw [hevents, hconnect, hran]
    rfl
  · rw [hrecords, hconnect, hran]
    exact List.filter_append ..

/-- What is shown of a registration that is taken, in terms of the callbacks that run in it. -/
theorem shown_connect {g : Gateway} {slot : SlotName} {level : Level} {cb : Option Callback}
    {ran : List Event} (ho : w.objection? ⟨⟨g, slot⟩, level, cb⟩ = none)
    (hran : Delivery.ranAll slot (w.slots.put slot cb) ((w.library g).chatter level) = ran) :
    let o := w.shown (w.connect ⟨g, slot⟩ level cb)
    o.world.slots = (w.slots.put slot cb).write (ran.flatMap Event.writes) ∧
      o.events = ran.filter Event.isNoted ∧
      o.records = ([connectRecord level cb] ++
        (ran.filterMap Event.logged?).flatMap (Call.records w.filter w.captured)).filter
          fun r => w.filter.admits r.severity := by
  have hconnect := connect_of_no_objection w ho
  have hc := ranConnecting_of_no_objection ho
  simp only at hconnect hc
  rw [hconnect, hc, hran]
  exact ⟨rfl, rfl, rfl⟩

/-- Where the logger does not run, the callbacks that run take note of every event, and nothing is
logged but that the route is connected. -/
theorem shown_connect_of_ne {g : Gateway} {slot : SlotName} {level : Level} {cb : Option Callback}
    {ran : List Event} (ho : w.objection? ⟨⟨g, slot⟩, level, cb⟩ = none)
    (hran : Delivery.ranAll slot (w.slots.put slot cb) ((w.library g).chatter level) = ran)
    (h : ∀ e ∈ ran, e.callback ≠ .logger) :
    let o := w.shown (w.connect ⟨g, slot⟩ level cb)
    o.world.slots = (w.slots.put slot cb).write (ran.flatMap Event.writes) ∧ o.events = ran ∧
      o.records = [connectRecord level cb].filter fun r => w.filter.admits r.severity := by
  obtain ⟨hslots, hevents, hrecords⟩ := shown_connect w ho hran
  rw [Event.filter_isNoted_of_ne h] at hevents
  rw [Event.filterMap_logged?_of_ne h, List.flatMap_nil, List.append_nil] at hrecords
  exact ⟨hslots, hevents, hrecords⟩

/-- A callback that only takes note receives all of the library's own events. -/
theorem shown_connect_of_isLocal {g : Gateway} {slot : SlotName} {level : Level} {cb : Callback}
    (ho : w.objection? ⟨⟨g, slot⟩, level, some cb⟩ = none) (hl : cb.isLocal = true)
    (hne : cb ≠ .logger) :
    let o := w.shown (w.connect ⟨g, slot⟩ level (some cb))
    o.events = ((w.library g).chatter level).map (⟨cb, ·⟩) ∧
      o.records = [connectRecord level (some cb)].filter fun r => w.filter.admits r.severity := by
  have hran := Delivery.ranAll_of_isLocal (Slots.get_put_self w.slots slot (some cb)) hl
    ((w.library g).chatter level)
  refine (shown_connect_of_ne w ho hran fun e he => ?_).2
  obtain ⟨c, -, rfl⟩ := List.mem_map.1 he
  exact hne

theorem shown_connect_none {g : Gateway} {slot : SlotName} {level : Level}
    (ho : w.objection? ⟨⟨g, slot⟩, level, none⟩ = none) :
    let o := w.shown (w.connect ⟨g, slot⟩ level none)
    o.events = [] ∧
      o.records = [connectRecord level none].filter fun r => w.filter.admits r.severity :=
  (shown_connect_of_ne w ho
    (Delivery.ranAll_of_empty (Slots.get_put_self w.slots slot none) _) nofun).2

theorem shown_connect_clear {g : Gateway} {level : Level} {c : Call} {rest : List Call}
    (ho : w.objection? ⟨⟨g, .shared⟩, level, some .clear⟩ = none)
    (hc : (w.library g).chatter level = c :: rest) :
    let o := w.shown (w.connect ⟨g, .shared⟩ level (some .clear))
    o.events = [⟨.clear, c⟩] ∧
      o.records = ([connectRecord level (some .clear)].filter fun r =>
        w.filter.admits r.severity) ∧
      o.world.slots.shared = none := by
  have hran : Delivery.ranAll .shared (w.slots.put .shared (some .clear))
      ((w.library g).chatter level) = [⟨.clear, c⟩] := by
    rw [hc]
    exact Delivery.ranAll_clear c rest
  obtain ⟨hslots, hevents, hrecords⟩ := shown_connect_of_ne w ho hran (by simp)
  exact ⟨hevents, hrecords, congrArg Slots.shared hslots⟩

theorem shown_connect_replace {g : Gateway} {level : Level} {c : Call} {rest : List Call}
    (ho : w.objection? ⟨⟨g, .shared⟩, level, some .replace⟩ = none)
    (hc : (w.library g).chatter level = c :: rest) :
    let o := w.shown (w.connect ⟨g, .shared⟩ level (some .replace))
    o.events = ⟨.replace, c⟩ :: rest.map (⟨.first, ·⟩) ∧
      o.records = [connectRecord level (some .replace)].filter fun r =>
        w.filter.admits r.severity := by
  have hran : Delivery.ranAll .shared (w.slots.put .shared (some .replace))
      ((w.library g).chatter level) = ⟨.replace, c⟩ :: rest.map (⟨.first, ·⟩) := by
    rw [hc]
    exact Delivery.ranAll_replace c rest
  exact (shown_connect_of_ne w ho hran (by simp)).2

theorem shown_connect_of_objection {g : Gateway} {slot : SlotName} {level : Level}
    {cb : Option Callback} {fault : Fault}
    (ho : w.objection? ⟨⟨g, slot⟩, level, cb⟩ = some fault) :
    let o := w.shown (w.connect ⟨g, slot⟩ level cb)
    o.events = [] ∧ o.records = ([connectRecord level cb] ++ [refusalRecord fault]).filter
      fun r => w.filter.admits r.severity := by
  have hconnect := connect_of_objection w ho
  simp only at hconnect
  rw [hconnect]
  exact ⟨rfl, rfl⟩

/-- To attach the log is to connect the route to the logger once the domains are captured. -/
theorem shown_attachLog (r : Route) (level : Level) :
    let u := (w.capture r.gateway).world
    let o := u.shown (u.connect r level (some .logger))
    w.shown (w.attachLog r level) = { o with
      records := ((w.capture r.gateway).records.filter fun r => w.filter.admits r.severity) ++
        o.records } := by
  simp only [shown, attachLog, Outcome.logBefore, List.filter_append, capture_filter]

theorem chatter_capture (g : Gateway) (level : Level) :
    ((w.capture g).world.library g).chatter level = (w.library g).chatter level := by
  obtain ⟨lookups, creates, order, h⟩ := capture_library w g g.library
  show ((w.capture g).world.libraries g.library).chatter level = _
  rw [h]
  rfl

theorem shown_attachLog_of_objection {g : Gateway} {slot : SlotName} {level : Level}
    {fault : Fault} (hg : w.objection? ⟨⟨g, slot⟩, level, some .logger⟩ = some fault) :
    let o := w.shown (w.attachLog ⟨g, slot⟩ level)
    let kept (records : List Record) := records.filter fun r => w.filter.admits r.severity
    o.events = [] ∧ o.records = kept (w.capture g).records ++
      kept [connectRecord level (some .logger)] ++ kept [refusalRecord fault] := by
  intro o kept
  have ho : o = _ := shown_attachLog w ⟨g, slot⟩ level
  have hu := (objection?_capture w g _).trans hg
  obtain ⟨hevents, hrecords⟩ := shown_connect_of_objection (w.capture g).world hu
  rw [capture_filter, List.filter_append] at hrecords
  rw [ho]
  exact ⟨hevents, (congrArg _ hrecords).trans (List.append_assoc ..).symm⟩

/-- The library's own events are delivered to the logger when the log is attached, and nobody else
takes note of them. -/
theorem shown_attachLog_of_no_objection {g : Gateway} {slot : SlotName} {level : Level}
    (hg : w.objection? ⟨⟨g, slot⟩, level, some .logger⟩ = none) :
    let u := (w.capture g).world
    let o := w.shown (w.attachLog ⟨g, slot⟩ level)
    let heard := (w.library g).chatter level
    let kept (records : List Record) := records.filter fun r => w.filter.admits r.severity
    let before := kept (w.capture g).records ++ kept [connectRecord level (some .logger)]
    IsDeliveries (u.taken g slot level (some .logger)) slot heard before o ∧ o.events = [] ∧
      o.records = before ++ (heard.map (Call.toRecord u.captured)).filter w.filter.keeps := by
  intro u o heard kept before
  have ho : o = _ := shown_attachLog w ⟨g, slot⟩ level
  have hu : u.objection? ⟨⟨g, slot⟩, level, some .logger⟩ = none :=
    (objection?_capture w g _).trans hg
  have hran : Delivery.ranAll slot (u.slots.put slot (some .logger))
      ((u.library g).chatter level) = heard.map (⟨.logger, ·⟩) := by
    rw [chatter_capture]
    exact Delivery.ranAll_of_isLocal (Slots.get_put_self _ _ _) rfl _
  have hdeliveries := isDeliveries_connect u hu
  obtain ⟨-, hevents, hrecords⟩ := shown_connect u hu hran
  rw [chatter_capture, capture_filter] at hdeliveries
  rw [Event.filter_isNoted_map_logger] at hevents
  rw [Event.filterMap_logged?_map_logger, List.filter_append, Call.filter_flatMap_records,
    capture_filter] at hrecords
  rw [ho]
  refine ⟨⟨hdeliveries.world, hdeliveries.events, ?_⟩, hevents, ?_⟩
  · exact (congrArg _ hdeliveries.records).trans (List.append_assoc ..).symm
  · exact (congrArg _ hrecords).trans (List.append_assoc ..).symm

theorem connect_put (r : Route) (level : Level) (held cb : Option Callback) :
    (w.put r.slot held).connect r level cb = w.connect r level cb := by
  have hput : (w.put r.slot held).put r.slot cb = w.put r.slot cb := by
    simp only [put, Slots.put_put]
  rw [connect, hput]
  rfl

theorem capture_put (slot : SlotName) (held : Option Callback) (g : Gateway) :
    (w.put slot held).capture g =
      { w.capture g with world := (w.capture g).world.put slot held } := by
  have hc : (w.put slot held).captured = w.captured := rfl
  unfold capture
  rw [hc]
  split
  · rfl
  · rfl

/-- What the slot of a route held before makes no difference. -/
theorem attachLog_put (r : Route) (level : Level) (held : Option Callback) :
    (w.put r.slot held).attachLog r level = w.attachLog r level := by
  simp only [attachLog, capture_put, connect_put]

end Connecting

section Talkative

variable {files : FileTree} {w : World} {g : Gateway}

/-- A library that is part of the program is not talkative. -/
theorem Wired.kind_of_talkative (h : w.Wired files) (hg : w.HasGateway g)
    (ht : (w.library g).image.talkative = true) : g.kind ≠ .inner ∧ g.kind ≠ .bare := by
  have hown : ∀ i, g.library ≠ .own i := by
    intro i hi
    have himage := h.complete g.library (by simp [hi])
    rw [library, himage] at ht
    cases ht
  rcases hg with hm | rfl
  · obtain ⟨i, hi⟩ := List.getElem?_of_mem hm
    cases h.gateways i g hi with
    | inner | bare => exact absurd rfl (hown i)
    | linked | opened => constructor <;> rintro ⟨⟩
  · constructor <;> rintro ⟨⟩

/-- A talkative library takes the registrations whose level is known. -/
theorem Wired.objection?_of_talkative (h : w.Wired files) (hg : w.HasGateway g)
    (ht : (w.library g).image.talkative = true) (slot : SlotName) (level : Level)
    (cb : Option Callback) :
    w.objection? ⟨⟨g, slot⟩, level, cb⟩ =
      if level.isKnown then none else some (.unknownLevel level) := by
  obtain ⟨hinner, hbare⟩ := h.kind_of_talkative hg ht
  have himage : ∀ path, g.kind = .opened path → (w.library g).image.objection? = none :=
    fun _ hk => h.image_objection? hg hk
  rcases ho : w.objection? ⟨⟨g, slot⟩, level, cb⟩ with _ | fault
  · rw [if_pos (((GatewayKind.objection?_eq_none_iff himage).1 ho).2 hbare)]
  · rcases GatewayKind.objection?_eq_some himage ho with ⟨hk, -⟩ | ⟨-, -, hl, rfl⟩
    · exact absurd hk (not_or_intro hinner hbare)
    · rw [if_neg (by rw [hl]; exact Bool.false_ne_true)]

end Talkative

/-- The events that a talkative library logs while it is registered are delivered as they would be
one after the other once the slot holds the new callback and the registration is in force, whatever
the slot held before. There is one for each known level from that of the registration on, and none if
that level is unknown. A callback that only takes note receives all of them, and nothing is delivered
to an empty slot. From the shared slot, a callback that empties the slot receives only the first, and
one that replaces itself leaves the rest to the other callback. To attach the log is the same with
the logger, whose records are tagged by the domains captured before. -/
theorem announcements_meet_new_callback (files : FileTree) (specs : List GatewaySpec)
    (steps : List Step) {i : Nat} {g : Gateway} (hg : (opened files specs).gateways[i]? = some g)
    (ht : (((opened files specs).after steps).library g).image.talkative = true) (slot : SlotName)
    (level : Level) :
    let w := (opened files specs).after steps
    let heard := (w.library g).chatter level
    let kept (records : List Record) := records.filter fun r => w.filter.admits r.severity
    let opening (cb : Option Callback) := kept [connectRecord level cb]
    let set (cb : Option Callback) := w.step (.connect ⟨i, slot⟩ level cb)
    let attach := w.step (.attachLog ⟨i, slot⟩ level)
    let u := (w.capture g).world
    (level.isKnown = false →
        (∀ cb, (set cb).events = [] ∧
          (set cb).records = opening cb ++ kept [refusalRecord (.unknownLevel level)]) ∧
        attach.events = [] ∧ attach.records = kept (w.capture g).records ++
          opening (some .logger) ++ kept [refusalRecord (.unknownLevel level)]) ∧
      (level.isKnown = true →
        heard.map (·.level) =
          (List.range' level.depth (6 - level.depth)).map (fun n => ⟨Int8.ofNat n⟩) ∧
        (∀ cb, (set cb).answer = .result (.ok ()) ∧
          IsDeliveries (w.taken g slot level cb) slot heard (opening cb) (set cb)) ∧
        (∀ cb, cb = .first ∨ cb = .second →
          (set (some cb)).events = heard.map (⟨cb, ·⟩) ∧
            (set (some cb)).records = opening (some cb)) ∧
        ((set none).events = [] ∧ (set none).records = opening none ∧
          w.step (.disconnect ⟨i, slot⟩ level) = set none) ∧
        (slot = .shared → ∃ c rest, heard = c :: rest ∧
          ((set (some .clear)).events = [⟨.clear, c⟩] ∧
            (set (some .clear)).records = opening (some .clear) ∧
            (set (some .clear)).world.slots.shared = none) ∧
          (set (some .replace)).events = ⟨.replace, c⟩ :: rest.map (⟨.first, ·⟩) ∧
            (set (some .replace)).records = opening (some .replace)) ∧
        attach.answer = .result (.ok ()) ∧
        IsDeliveries (u.taken g slot level (some .logger)) slot heard
          (kept (w.capture g).records ++ opening (some .logger)) attach ∧
        attach.events = [] ∧
        ∃ ds, (w.captured = some ds ∨
            w.captured = none ∧ (w.step (.askDomains i)).answer = .domains ds) ∧
          u.captured = some ds ∧
          attach.records = kept (w.capture g).records ++ opening (some .logger) ++
            (heard.map fun c =>
              ⟨c.level.severity, .events, ds.tagOf c.domain ++ " " ++ c.body⟩).filter
                w.filter.keeps) ∧
      ∀ held, (∀ cb, (w.put slot held).step (.connect ⟨i, slot⟩ level cb) = set cb) ∧
        (w.put slot held).step (.attachLog ⟨i, slot⟩ level) = attach := by
  intro w heard kept opening set attach u
  have hw : w.Wired files := (wired_opened files specs).after steps
  have hgw : w.gateways[i]? = some g := by rw [after_gateways, hg]
  have hset : ∀ cb, set cb = w.shown (w.connect ⟨g, slot⟩ level cb) := by
    intro cb
    simp only [set, step, perform, withRoute, withGateway, hgw]
    rfl
  have hattach : attach = w.shown (w.attachLog ⟨g, slot⟩ level) := by
    simp only [attach, step, perform, withRoute, withGateway, hgw]
    rfl
  have ho := hw.objection?_of_talkative (.inl (List.mem_of_getElem? hgw)) ht slot level
  refine ⟨fun hl => ?_, fun hl => ?_, fun held => ⟨fun cb => ?_, ?_⟩⟩
  · simp only [hl, Bool.false_eq_true, if_false] at ho
    refine ⟨fun cb => ?_, ?_⟩
    · obtain ⟨hevents, hrecords⟩ := shown_connect_of_objection w (ho cb)
      rw [hset]
      exact ⟨hevents, hrecords.trans (List.filter_append ..)⟩
    · rw [hattach]
      exact shown_attachLog_of_objection w (ho _)
  · simp only [hl, if_true] at ho
    obtain ⟨c, rest, hheard⟩ := List.exists_cons_of_ne_nil (Library.chatter_ne_nil ht hl)
    obtain ⟨hdeliveries, hevents, hrecords⟩ := shown_attachLog_of_no_objection w (ho _)
    have hu : u.captured = some (w.captured.getD (w.askDomains g).answer) := capture_captured w g
    rw [show (w.capture g).world.captured = _ from hu] at hrecords
    refine ⟨Library.levels_chatter ht hl, fun cb => ⟨?_, ?_⟩, fun cb hcb => ?_, ?_, ?_, ?_, ?_,
      ?_, ?_⟩
    · rw [hset]
      exact congrArg Answer.result ((connect_answer w _).trans (verdict_eq_ok_iff.2 (ho cb)))
    · rw [hset]
      exact isDeliveries_connect w (ho cb)
    · rw [hset]
      rcases hcb with rfl | rfl
      · exact shown_connect_of_isLocal w (ho _) rfl (by decide)
      · exact shown_connect_of_isLocal w (ho _) rfl (by decide)
    · obtain ⟨hquiet, hrecords⟩ := shown_connect_none w (ho none)
      rw [hset]
      exact ⟨hquiet, hrecords, (hset none).symm ▸ rfl⟩
    · rintro rfl
      refine ⟨c, rest, hheard, ?_, ?_⟩
      · rw [hset]
        exact shown_connect_clear w (ho _) hheard
      · rw [hset]
        exact shown_connect_replace w (ho _) hheard
    · rw [hattach]
      exact congrArg Answer.result
        ((attachLog_answer w _ level).trans (verdict_eq_ok_iff.2 (ho _)))
    · rw [hattach]
      exact hdeliveries
    · rw [hattach]
      exact hevents
    · refine ⟨w.captured.getD (w.askDomains g).answer, ?_, hu, ?_⟩
      · rw [step_askDomains_answer hgw]
        rcases w.captured with _ | ds
        · exact .inr ⟨rfl, rfl⟩
        · exact .inl rfl
      · rw [hattach]
        exact hrecords
  · have hput : (w.put slot held).connect ⟨g, slot⟩ level cb = w.connect ⟨g, slot⟩ level cb :=
      connect_put w ⟨g, slot⟩ level held cb
    have hgp : (w.put slot held).gateways[i]? = some g := hgw
    simp only [hset, step, perform, withRoute, withGateway, hgp, hput]
    rfl
  · have hput : (w.put slot held).attachLog ⟨g, slot⟩ level = w.attachLog ⟨g, slot⟩ level :=
      attachLog_put w ⟨g, slot⟩ level held
    have hgp : (w.put slot held).gateways[i]? = some g := hgw
    simp only [hattach, step, perform, withRoute, withGateway, hgp, hput]
    rfl

/-- A library that is registered at warning level logs three events. They meet a callback that
replaces itself, though another callback was held before, and an unknown level is met by none. -/
theorem announcements_meet_replaced_callback :
    let g : Gateway := ⟨.opened (Utf8.encode "./chatty.so"),
      .file [Utf8.encode "work", Utf8.encode "chatty.so"]⟩
    let start := opened .stock
      [.opened (Utf8.encode "./chatty.so") ⟨⟨16⟩, ⟨32⟩, ⟨48⟩, ⟨64⟩, ⟨80⟩⟩]
    let steps : List Step := [.connect ⟨0, .left⟩ .off none, .put .shared (some .nest)]
    let text := some (Utf8.encode "stub says %d")
    let w := start.after steps
    start.gateways[0]? = some g ∧ (w.library g).image.talkative = true ∧
      Level.warning.isKnown = true ∧
      (w.step (.connect ⟨0, .shared⟩ .warning (some .replace))).events =
        [⟨.replace, ⟨⟨64⟩, .warning, text⟩⟩, ⟨.first, ⟨⟨80⟩, .error, text⟩⟩,
          ⟨.first, ⟨⟨16⟩, .off, none⟩⟩] ∧
      (⟨6⟩ : Level).isKnown = false ∧
      (w.step (.connect ⟨0, .shared⟩ ⟨6⟩ (some .replace))).events = [] := by
  intro g start steps text w
  have hg : start.gateways[0]? = some g := by rfl
  have ht : (w.library g).image.talkative = true := by rfl
  have hk : Level.warning.isKnown = true := by rfl
  have hu : (⟨6⟩ : Level).isKnown = false := by rfl
  have hheard : (w.library g).chatter .warning =
      [⟨⟨64⟩, .warning, text⟩, ⟨⟨80⟩, .error, text⟩, ⟨⟨16⟩, .off, none⟩] := by rfl
  obtain ⟨-, hknown, -⟩ :=
    announcements_meet_new_callback .stock _ steps hg ht .shared .warning
  obtain ⟨-, -, -, -, hshared, -⟩ := hknown hk
  obtain ⟨c, rest, hcons, -, hreplace, -⟩ := hshared rfl
  obtain ⟨hnone, -⟩ := announcements_meet_new_callback .stock _ steps hg ht .shared ⟨6⟩
  obtain ⟨rfl, rfl⟩ := List.cons.inj (hheard.symm.trans hcons)
  exact ⟨hg, ht, hk, hreplace, hu, ((hnone hu).1 (some .replace)).1⟩

end World

end Switchboard
