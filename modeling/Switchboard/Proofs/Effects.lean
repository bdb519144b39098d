import Switchboard.Proofs.Trace
import Switchboard.Step

/-!
# What a step does

A step either connects a route (`Step.connection?`), or hands an event to a slot or to the logger,
or does neither. `World.ran` lists the callbacks that run in a step, and what happens to the parts
of the state is said in terms of that list and of the connection: an `Effect` has one field for each
part. What each operation does is proved once, and `follows_perform` puts this together, so that a
property of runs needs no cases over the steps.
-/

namespace Switchboard

/-- A route that is connected, the level that it is registered at, and what it is connected to. -/
structure Connection where
  route : Route
  level : Level
  callback : Option Callback
  deriving DecidableEq, Repr

def Connection.library (k : Connection) : LibraryId :=
  k.route.gateway.library

/-- The route that is meant, if its gateway exists. -/
def RouteRef.resolve? (gateways : List Gateway) (r : RouteRef) : Option Route :=
  gateways[r.gateway]?.map (⟨·, r.slot⟩)

theorem RouteRef.resolve?_map_eq_some {gateways : List Gateway} {r : RouteRef} {level : Level}
    {cb : Option Callback} {k : Connection}
    (h : (r.resolve? gateways).map (⟨·, level, cb⟩) = some k) :
    ∃ g, gateways[r.gateway]? = some g ∧ k = ⟨⟨g, r.slot⟩, level, cb⟩ := by
  simp only [resolve?, Option.map_map, Option.map_eq_some_iff] at h
  obtain ⟨g, hg, rfl⟩ := h
  exact ⟨g, hg, rfl⟩

namespace Step

/-- What a step connects, if it connects anything: attaching the log once does so only if it has not
been tried before. -/
def connection? (gateways : List Gateway) (tried : Bool) : Step → Option Connection
  | .connect r level cb => (r.resolve? gateways).map (⟨·, level, cb⟩)
  | .disconnect r level => (r.resolve? gateways).map (⟨·, level, none⟩)
  | .connectShared g level cb => ((⟨g, .shared⟩ : RouteRef).resolve? gateways).map (⟨·, level, cb⟩)
  | .connectLinked level cb => some ⟨⟨.linked, .shared⟩, level, cb⟩
  | .attachLog r level => (r.resolve? gateways).map (⟨·, level, some .logger⟩)
  | .attachLogOnce r level =>
    if tried then none else (r.resolve? gateways).map (⟨·, level, some .logger⟩)
  | _ => none

/-- Whether a step attaches the log once, or would if that had not been tried before. -/
def triesOnce (gateways : List Gateway) : Step → Bool
  | .attachLogOnce r _ => (r.resolve? gateways).isSome
  | _ => false

/-- The gateway over which a step attaches the log, or would if that had not been tried before. -/
def attaches? (gateways : List Gateway) : Step → Option Gateway
  | .attachLog r _ | .attachLogOnce r _ => gateways[r.gateway]?
  | _ => none

/-- What a step that connects nothing writes to the slots by itself. -/
def puts : Step → List Write
  | .put name cb => [⟨name, cb⟩]
  | _ => []

/-- What a step writes to the slots by itself, whether a library then takes the registration or
refuses it. -/
def writes (gateways : List Gateway) (tried : Bool) (s : Step) : List Write :=
  match s.connection? gateways tried with
  | some k => [⟨k.route.slot, k.callback⟩]
  | none => s.puts

end Step

namespace Outcome

variable {α : Type}

def ofRan (answer : α) (w : World) (ran : List Event) : Outcome α :=
  .ofDelivery answer w (.ofRan w.filter w.captured w.slots ran)

end Outcome

namespace World

def connection? (w : World) (s : Step) : Option Connection :=
  s.connection? w.gateways w.attached.isSome

/-- Why the registration of a connection is refused, if it is. -/
def objection? (w : World) (k : Connection) : Option Fault :=
  k.route.gateway.kind.objection? (w.library k.route.gateway) k.level

/-- What is answered to a connection. -/
def verdict (w : World) (k : Connection) : Except Fault Unit :=
  match w.objection? k with
  | some fault => .error fault
  | none => .ok ()

/-- The registration that a library accepts when a route is connected, if it accepts one. -/
def accepts? (w : World) (k : Connection) (id : LibraryId) : Option Registration :=
  if w.objection? k = none ∧ id = k.library then some ⟨k.level, k.route.slot, true⟩ else none

/-- The callbacks that run while a route is connected: those that a library's own events meet. -/
def ranConnecting (w : World) (k : Connection) : List Event :=
  match w.objection? k with
  | some _ => []
  | none =>
    Delivery.ranAll k.route.slot (w.slots.put k.route.slot k.callback)
      ((w.library k.route.gateway).chatter k.level)

/-- Where an event goes that a gateway's library logs. -/
def destination? (w : World) (gateway : Nat) (level : Level) : Option SlotName :=
  w.gateways[gateway]?.bind fun g => (w.library g).destination? level

/-- The callbacks that run in a step that connects nothing. -/
def ranApart (w : World) : Step → List Event
  | .emit g c =>
    match w.destination? g c.level with
    | some name => Delivery.ran w.slots name c.wire
    | none => []
  | .enter name c | .deliver name c => Delivery.ran w.slots name c.wire
  | .log c => [⟨.logger, c.wire⟩]
  | _ => []

/-- The callbacks that run in a step. -/
def ran (w : World) (s : Step) : List Event :=
  match w.connection? s with
  | some k => w.ranConnecting k
  | none => w.ranApart s

/-- The events that the logger is given in a step. -/
def logged (w : World) (s : Step) : List Call :=
  (w.ran s).filterMap Event.logged?

def registered? (w : World) (s : Step) (id : LibraryId) : Option Registration :=
  (w.connection? s).bind (w.accepts? · id)

/-- The domains that have been captured when callbacks run in a step. -/
def capturedIn (w : World) (s : Step) : Option Domains :=
  match w.connection? s, s.attaches? w.gateways with
  | some _, some g => some (w.captured.getD (w.askDomains g).answer)
  | some _, none => w.captured
  | none, _ => w.captured

/-- The outcome of attaching the log once that is kept after a step: the first one. -/
def attachedAfter (w : World) (s : Step) : Option (Except Fault Unit) :=
  w.attached.or (if s.triesOnce w.gateways then (w.connection? s).map w.verdict else none)

end World

theorem GatewayKind.register_of_objection {kind : GatewayKind} {lib : Library} {level : Level}
    {via : SlotName} {fault : Fault} (h : kind.objection? lib level = some fault) :
    kind.register lib level via = .error fault := by
  simp only [register, h]

theorem GatewayKind.register_of_no_objection {kind : GatewayKind} {lib : Library} {level : Level}
    {via : SlotName} (h : kind.objection? lib level = none) :
    kind.register lib level via = .ok (lib.accept ⟨level, via, true⟩) := by
  simp only [register, h]

/-- Asking a gateway for its domains changes nothing of its library but what the library keeps track
of. -/
theorem GatewayKind.askDomains_library (kind : GatewayKind) (lib : Library) :
    ∃ lookups creates order, (kind.askDomains lib).2.1 =
      { lib with lookups := lookups, creates := creates, order := order } := by
  cases kind with
  | inner => exact ⟨lib.lookups + 1, lib.creates, lib.order, rfl⟩
  | bare => exact ⟨lib.lookups, lib.creates, lib.order, rfl⟩
  | linked => exact ⟨_, _, _, rfl⟩
  | opened path =>
    simp only [askDomains]
    split_ifs
    · exact ⟨_, _, _, rfl⟩
    · exact ⟨lib.lookups, lib.creates, lib.order, rfl⟩

theorem GatewayKind.target_of_mem_askDomains {kind : GatewayKind} {lib : Library} {r : Record}
    (h : r ∈ (kind.askDomains lib).2.2) : r.target = .loader := by
  cases kind with
  | opened path =>
    simp only [askDomains] at h
    split_ifs at h
    · simp at h
    · simp only [List.mem_singleton] at h
      rw [h]
      rfl
  | _ => simp [askDomains] at h

/-- What a library may be like before a step registers anything with it: as it was, or as it is
after being asked for its domains, or changed where it is part of the program. -/
inductive Touched (w : World) : LibraryId → Library → Prop where
  | same (id : LibraryId) : Touched w id (w.libraries id)
  | asked {g : Gateway} (hg : g ∈ w.gateways) :
    Touched w g.library (g.kind.askDomains (w.library g)).2.1
  | changed {g : Gateway} (hg : g ∈ w.gateways) (hk : g.kind = .inner ∨ g.kind = .bare)
    (handles : Domains) (refusal : Option Fault) :
    Touched w g.library { w.library g with handles := handles, refusal := refusal }

theorem Touched.kept {w : World} {id : LibraryId} {lib : Library} (h : Touched w id lib) :
    lib.image = (w.libraries id).image ∧ lib.accepted = (w.libraries id).accepted ∧
      lib.current = (w.libraries id).current := by
  cases h with
  | same => exact ⟨rfl, rfl, rfl⟩
  | @asked g =>
    obtain ⟨lookups, creates, order, hl⟩ := g.kind.askDomains_library (w.library g)
    rw [hl]
    exact ⟨rfl, rfl, rfl⟩
  | changed => exact ⟨rfl, rfl, rfl⟩

/-- A library after the registration that it accepts, if it accepts one. -/
def Library.acceptAny (lib : Library) (r : Option Registration) : Library :=
  match r with
  | some r => lib.accept r
  | none => lib

/-- What happens in an outcome: what is written to the slots at first, which callbacks run after
that, which registration each library accepts, which domains have been captured by then, and which
outcome of attaching the log once is kept by the end. -/
structure Effect {α : Type} (w : World) (own : List Write) (ran : List Event)
    (accepted : LibraryId → Option Registration) (captured : Option Domains)
    (attached : Option (Except Fault Unit)) (o : Outcome α) : Prop where
  slots : o.world.slots = w.slots.write (own ++ ran.flatMap Event.writes)
  events : o.events = ran.filter Event.isNoted
  records : (o.records.filter fun r => r.target == .events) =
    (ran.filterMap Event.logged?).flatMap (Call.records w.filter captured)
  captured : o.world.captured = captured
  attached : o.world.attached = attached
  libraries : ∀ id, ∃ lib, Touched w id lib ∧ o.world.libraries id = lib.acceptAny (accepted id)
  gateways : o.world.gateways = w.gateways

namespace Effect

variable {α β : Type} {w : World} {own : List Write} {ran : List Event}
  {accepted : LibraryId → Option Registration} {captured : Option Domains}
  {attached : Option (Except Fault Unit)} {o : Outcome α}

/-- The libraries stay as they are. -/
theorem libraries_same {w v : World} (h : v.libraries = w.libraries) (id : LibraryId) :
    ∃ lib, Touched w id lib ∧ v.libraries id = lib.acceptAny none :=
  ⟨w.libraries id, .same id, congrFun h id⟩

theorem plain (answer : α) (w : World) :
    Effect w [] [] (fun _ => none) w.captured w.attached (Outcome.plain answer w) :=
  ⟨rfl, rfl, rfl, rfl, rfl, libraries_same rfl, rfl⟩

theorem map (f : α → β) (h : Effect w own ran accepted captured attached o) :
    Effect w own ran accepted captured attached (o.map f) :=
  ⟨h.slots, h.events, h.records, h.captured, h.attached, h.libraries, h.gateways⟩

theorem filter_events_eq_nil {records : List Record} (h : ∀ r ∈ records, r.target ≠ .events) :
    (records.filter fun r => r.target == .events) = [] := by
  rw [List.filter_eq_nil_iff]
  intro r hr
  simpa using h r hr

theorem logBefore {records : List Record} (hr : ∀ r ∈ records, r.target ≠ .events)
    (h : Effect w own ran accepted captured attached o) :
    Effect w own ran accepted captured attached (o.logBefore records) := by
  refine ⟨h.slots, h.events, ?_, h.captured, h.attached, h.libraries, h.gateways⟩
  rw [Outcome.logBefore, List.filter_append, filter_events_eq_nil hr, List.nil_append]
  exact h.records

theorem logAfter {records : List Record} (hr : ∀ r ∈ records, r.target ≠ .events)
    (h : Effect w own ran accepted captured attached o) :
    Effect w own ran accepted captured attached (o.logAfter records) := by
  refine ⟨h.slots, h.events, ?_, h.captured, h.attached, h.libraries, h.gateways⟩
  rw [Outcome.logAfter, List.filter_append, filter_events_eq_nil hr, List.append_nil]
  exact h.records

theorem ofRan (answer : α) (w : World) (ran : List Event) :
    Effect w [] ran (fun _ => none) w.captured w.attached (Outcome.ofRan answer w ran) := by
  refine ⟨rfl, rfl, ?_, rfl, rfl, libraries_same rfl, rfl⟩
  refine List.filter_eq_self.2 fun r hr => ?_
  obtain ⟨c, -, hc⟩ := List.mem_flatMap.1 hr
  rw [Call.target_of_mem_records hc]
  rfl

/-- A library stays what it was built as. -/
theorem image (h : Effect w own ran accepted captured attached o) (id : LibraryId) :
    (o.world.libraries id).image = (w.libraries id).image := by
  obtain ⟨lib, ht, hl⟩ := h.libraries id
  rw [hl, ← ht.kept.1]
  rcases accepted id with _ | r
  · rfl
  · rfl

end Effect

namespace World

variable (w : World)

theorem deliver_eq (name : SlotName) (c : Call) :
    w.deliver name c = .ofRan () w (Delivery.ran w.slots name c) := by
  rw [deliver, Delivery.deliver_eq]
  rfl

theorem log_eq (c : Call) : w.log c = .ofRan () w [⟨.logger, c⟩] := by
  have h := Delivery.ranAt_of_isLocal w.slots c.level.depth (show Callback.logger.isLocal from rfl) c
  rw [log, Delivery.invoke, Delivery.invokeAt_eq, h]
  rfl

theorem emit_eq (g : Gateway) (c : Call) :
    w.emit g c =
      match (w.library g).destination? c.level with
      | some name => .ofRan true w (Delivery.ran w.slots name c)
      | none => .plain false w := by
  unfold emit
  rcases (w.library g).destination? c.level with _ | name
  · rfl
  · simp only [deliver_eq]
    rfl

/-- A refused registration leaves the new callback in the slot, and nothing runs. -/
theorem connect_of_objection {k : Connection} {fault : Fault} (h : w.objection? k = some fault) :
    w.connect k.route k.level k.callback =
      ⟨.error fault, w.put k.route.slot k.callback, [],
        [connectRecord k.level k.callback, refusalRecord fault]⟩ := by
  have hr : k.route.gateway.kind.register ((w.put k.route.slot k.callback).library k.route.gateway)
      k.level k.route.slot = .error fault :=
    GatewayKind.register_of_objection h
  rw [connect, register, hr]
  rfl

/-- A registration that is taken is followed by the library's own events, which meet the new
callback. -/
theorem connect_of_no_objection {k : Connection} (h : w.objection? k = none) :
    w.connect k.route k.level k.callback =
      (Outcome.ofRan (.ok ())
        ((w.put k.route.slot k.callback).setLibrary k.library
          ((w.library k.route.gateway).accept ⟨k.level, k.route.slot, true⟩))
        (w.ranConnecting k)).logBefore [connectRecord k.level k.callback] := by
  have hr : k.route.gateway.kind.register ((w.put k.route.slot k.callback).library k.route.gateway)
      k.level k.route.slot =
        .ok ((w.library k.route.gateway).accept ⟨k.level, k.route.slot, true⟩) :=
    GatewayKind.register_of_no_objection h
  rw [connect, register, hr]
  simp only [Delivery.deliverAll_eq, ranConnecting, h]
  rfl

theorem connect_answer (k : Connection) :
    (w.connect k.route k.level k.callback).answer = w.verdict k := by
  unfold verdict
  rcases h : w.objection? k with _ | fault
  · rw [connect_of_no_objection w h]
    rfl
  · rw [connect_of_objection w h]

theorem connect_libraries (k : Connection) (id : LibraryId) :
    (w.connect k.route k.level k.callback).world.libraries id =
      (w.libraries id).acceptAny (w.accepts? k id) := by
  rcases h : w.objection? k with _ | fault
  · rw [connect_of_no_objection w h]
    by_cases hid : id = k.library
    · subst hid
      rw [accepts?, if_pos ⟨h, rfl⟩]
      exact setLibrary_libraries_self (w.put k.route.slot k.callback) _ _
    · rw [accepts?, if_neg fun hk => hid hk.2]
      exact setLibrary_libraries_of_ne (w.put k.route.slot k.callback) hid _
  · have ho : w.objection? k ≠ none := by
      rw [h]
      exact nofun
    rw [connect_of_objection w h, accepts?, if_neg fun hk => ho hk.1]
    rfl

theorem effect_connect (k : Connection) :
    Effect w [⟨k.route.slot, k.callback⟩] (w.ranConnecting k) (w.accepts? k) w.captured
      w.attached (w.connect k.route k.level k.callback) := by
  have hl : ∀ id, ∃ lib, Touched w id lib ∧
      (w.connect k.route k.level k.callback).world.libraries id =
        lib.acceptAny (w.accepts? k id) :=
    fun id => ⟨w.libraries id, .same id, connect_libraries w k id⟩
  revert hl
  rcases h : w.objection? k with _ | fault
  · rw [connect_of_no_objection w h]
    intro hl
    refine Effect.logBefore (by simp [connectRecord]) ?_
    have hran := Effect.ofRan (Except.ok () : Except Fault Unit)
      ((w.put k.route.slot k.callback).setLibrary k.library
        ((w.library k.route.gateway).accept ⟨k.level, k.route.slot, true⟩)) (w.ranConnecting k)
    exact ⟨hran.slots, hran.events, hran.records, rfl, rfl, hl, rfl⟩
  · rw [connect_of_objection w h]
    intro hl
    have hran : w.ranConnecting k = [] := by simp only [ranConnecting, h]
    rw [hran]
    exact ⟨rfl, rfl, rfl, rfl, rfl, hl, rfl⟩

theorem effect_askDomains {g : Gateway} (hg : g ∈ w.gateways) :
    Effect w [] [] (fun _ => none) w.captured w.attached (w.askDomains g) := by
  refine ⟨rfl, rfl, ?_, rfl, rfl, fun id => ?_, rfl⟩
  · refine Effect.filter_events_eq_nil fun r hr => ?_
    rw [GatewayKind.target_of_mem_askDomains hr]
    exact nofun
  · by_cases hid : id = g.library
    · subst hid
      exact ⟨_, .asked hg, setLibrary_libraries_self w _ _⟩
    · exact ⟨_, .same id, setLibrary_libraries_of_ne w hid _⟩

/-! ### Capturing -/

theorem capture_captured (g : Gateway) :
    (w.capture g).world.captured = some (w.captured.getD (w.askDomains g).answer) := by
  unfold capture
  rcases h : w.captured with _ | ds
  · rfl
  · exact h

theorem capture_library (g : Gateway) (id : LibraryId) :
    ∃ lookups creates order, (w.capture g).world.libraries id =
      { w.libraries id with lookups := lookups, creates := creates, order := order } := by
  unfold capture
  rcases w.captured with _ | ds
  · obtain ⟨lookups, creates, order, h⟩ := GatewayKind.askDomains_library g.kind (w.library g)
    by_cases hid : id = g.library
    · subst hid
      refine ⟨lookups, creates, order, ?_⟩
      show (w.setLibrary g.library (g.kind.askDomains (w.library g)).2.1).libraries g.library = _
      rw [h, setLibrary_libraries_self]
      rfl
    · exact ⟨_, _, _, setLibrary_libraries_of_ne w hid _⟩
  · exact ⟨_, _, _, rfl⟩

theorem capture_slots (g : Gateway) : (w.capture g).world.slots = w.slots := by
  unfold capture
  split <;> rfl

theorem capture_filter (g : Gateway) : (w.capture g).world.filter = w.filter := by
  unfold capture
  split <;> rfl

theorem effect_capture {g : Gateway} (hg : g ∈ w.gateways) :
    Effect w [] [] (fun _ => none) (some (w.captured.getD (w.askDomains g).answer))
      w.attached (w.capture g) := by
  have hc := capture_captured w g
  revert hc
  unfold capture
  rcases h : w.captured with _ | ds <;> intro hc
  · have ha := effect_askDomains w hg
    exact ⟨ha.slots, ha.events, ha.records, hc, ha.attached, ha.libraries, ha.gateways⟩
  · have hp := Effect.plain () w
    exact ⟨hp.slots, hp.events, hp.records, hc, hp.attached, hp.libraries, hp.gateways⟩

theorem objection?_capture (g : Gateway) (k : Connection) :
    (w.capture g).world.objection? k = w.objection? k := by
  obtain ⟨lookups, creates, order, h⟩ := capture_library w g k.library
  show k.route.gateway.kind.objection? ((w.capture g).world.libraries k.library) k.level = _
  rw [h]
  rfl

theorem ranConnecting_capture (g : Gateway) (k : Connection) :
    (w.capture g).world.ranConnecting k = w.ranConnecting k := by
  obtain ⟨lookups, creates, order, h⟩ := capture_library w g k.library
  have hl : ((w.capture g).world.library k.route.gateway).chatter k.level =
      (w.library k.route.gateway).chatter k.level := by
    show ((w.capture g).world.libraries k.library).chatter k.level = _
    rw [h]
    rfl
  simp only [ranConnecting, objection?_capture, capture_slots, hl]

theorem attachLog_answer (r : Route) (level : Level) :
    (w.attachLog r level).answer = w.verdict ⟨r, level, some .logger⟩ := by
  have h := connect_answer (w.capture r.gateway).world ⟨r, level, some .logger⟩
  simp only [verdict, objection?_capture] at h
  exact h

theorem effect_attachLog {r : Route} (hg : r.gateway ∈ w.gateways) (level : Level) :
    Effect w [⟨r.slot, some .logger⟩] (w.ranConnecting ⟨r, level, some .logger⟩)
      (w.accepts? ⟨r, level, some .logger⟩)
      (some (w.captured.getD (w.askDomains r.gateway).answer)) w.attached
      (w.attachLog r level) := by
  have hc := effect_capture w hg
  have hk := effect_connect (w.capture r.gateway).world ⟨r, level, some .logger⟩
  rw [ranConnecting_capture, hc.captured, hc.attached] at hk
  refine ⟨?_, hk.events, ?_, hk.captured, hk.attached, fun id => ?_, hk.gateways.trans hc.gateways⟩
  · rw [← capture_slots w r.gateway]
    exact hk.slots
  · have hr : ((w.capture r.gateway).records.filter fun r => r.target == .events) = [] := hc.records
    rw [attachLog, Outcome.logBefore, List.filter_append, hr, List.nil_append,
      ← capture_filter w r.gateway]
    exact hk.records
  · -- The library is asked, if it is, before it is registered.
    obtain ⟨lib, ht, hi⟩ := hc.libraries id
    have ha : (w.capture r.gateway).world.accepts? ⟨r, level, some .logger⟩ id =
        w.accepts? ⟨r, level, some .logger⟩ id := by
      simp only [accepts?, objection?_capture]
    have hl := connect_libraries (w.capture r.gateway).world ⟨r, level, some .logger⟩ id
    rw [ha, hi] at hl
    exact ⟨lib, ht, hl⟩

theorem effect_connectLinked (level : Level) (cb : Option Callback) :
    Effect w [⟨.shared, cb⟩] (w.ranConnecting ⟨⟨.linked, .shared⟩, level, cb⟩)
      (w.accepts? ⟨⟨.linked, .shared⟩, level, cb⟩) w.captured w.attached
      (w.connectLinked level cb) := by
  have hk := effect_connect w ⟨⟨.linked, .shared⟩, level, cb⟩
  refine Effect.logAfter ?_ (hk.map _)
  split
  · simp
  · simp [lostRefusalRecord]

theorem effect_emit (i : Nat) (c : Call) :
    Effect w [] (w.ranApart (.emit i c)) (fun _ => none) w.captured w.attached
      (w.perform (.emit i c)) := by
  simp only [ranApart, destination?, perform, withGateway, emit_eq]
  rcases w.gateways[i]? with _ | g
  · exact Effect.plain _ w
  · have hl : c.wire.level = c.level := rfl
    simp only [hl, Option.bind_some]
    rcases (w.library g).destination? c.level with _ | name
    · exact (Effect.plain _ w).map _
    · exact (Effect.ofRan _ w _).map _

theorem effect_adjust {g : Gateway} (hg : g ∈ w.gateways) {change : Library → Library}
    (hc : ∀ lib, ∃ handles refusal,
      change lib = { lib with handles := handles, refusal := refusal }) (answer : Answer) :
    Effect w [] [] (fun _ => none) w.captured w.attached
      (Outcome.plain answer (w.adjust g change)) := by
  have hset : ∀ hk : g.kind = .inner ∨ g.kind = .bare,
      Effect w [] [] (fun _ => none) w.captured w.attached
        (Outcome.plain answer (w.setLibrary g.library (change (w.library g)))) := by
    intro hk
    refine ⟨rfl, rfl, rfl, rfl, rfl, fun id => ?_, rfl⟩
    by_cases hid : id = g.library
    · subst hid
      obtain ⟨handles, refusal, h⟩ := hc (w.library g)
      rw [h]
      exact ⟨_, .changed hg hk handles refusal, setLibrary_libraries_self w _ _⟩
    · exact ⟨_, .same id, setLibrary_libraries_of_ne w hid _⟩
  unfold adjust
  split
  · rename_i hk
    exact hset (.inl hk)
  · rename_i hk
    exact hset (.inr hk)
  · exact Effect.plain answer w
  · exact Effect.plain answer w

/-- What happens in an outcome is what the step does in this state. -/
def Follows (s : Step) (o : Outcome Answer) : Prop :=
  Effect w (s.writes w.gateways w.attached.isSome) (w.ran s) (w.registered? s) (w.capturedIn s)
    (w.attachedAfter s) o

theorem capturedIn_of_attaches_eq_none {s : Step} (ha : s.attaches? w.gateways = none) :
    w.capturedIn s = w.captured := by
  unfold capturedIn
  rw [ha]
  rcases w.connection? s with _ | k
  · rfl
  · rfl

theorem capturedIn_of_attaches {s : Step} {k : Connection} {g : Gateway}
    (hk : w.connection? s = some k) (ha : s.attaches? w.gateways = some g) :
    w.capturedIn s = some (w.captured.getD (w.askDomains g).answer) := by
  simp only [capturedIn, hk, ha]

theorem attachedAfter_of_not_triesOnce {s : Step} (h : s.triesOnce w.gateways = false) :
    w.attachedAfter s = w.attached := by
  simp [attachedAfter, h]

theorem attachedAfter_of_none {s : Step} (hk : w.connection? s = none) :
    w.attachedAfter s = w.attached := by
  simp [attachedAfter, hk]

theorem follows_of_connection {s : Step} {k : Connection} {o : Outcome Answer}
    (hk : w.connection? s = some k)
    (h : Effect w [⟨k.route.slot, k.callback⟩] (w.ranConnecting k) (w.accepts? k) (w.capturedIn s)
      (w.attachedAfter s) o) : w.Follows s o := by
  have hk' : s.connection? w.gateways w.attached.isSome = some k := hk
  have hr : w.registered? s = w.accepts? k := by
    funext id
    simp only [registered?, hk, Option.bind_some]
  simp only [Follows, Step.writes, hk', ran, hk, hr]
  exact h

theorem follows_of_none {s : Step} {o : Outcome Answer} (hk : w.connection? s = none)
    (h : Effect w s.puts (w.ranApart s) (fun _ => none) w.captured w.attached o) :
    w.Follows s o := by
  have hk' : s.connection? w.gateways w.attached.isSome = none := hk
  have hr : w.registered? s = fun _ => none := by
    funext id
    simp only [registered?, hk, Option.bind_none]
  simp only [Follows, Step.writes, hk', ran, hk, capturedIn, hr, attachedAfter_of_none w hk]
  exact h

theorem follows_plain {s : Step} {answer : Answer} (hk : w.connection? s = none)
    (hw : s.puts = []) (hr : w.ranApart s = []) : w.Follows s (Outcome.plain answer w) := by
  refine follows_of_none w hk ?_
  rw [hw, hr]
  exact Effect.plain answer w

theorem follows_connect (r : RouteRef) (level : Level) (cb : Option Callback) :
    w.Follows (.connect r level cb) (w.perform (.connect r level cb)) := by
  rcases hg : w.gateways[r.gateway]? with _ | g
  · have hk : w.connection? (.connect r level cb) = none := by
      simp only [connection?, Step.connection?, RouteRef.resolve?, hg, Option.map_none]
    simp only [perform, withRoute, withGateway, hg]
    exact follows_plain w hk rfl rfl
  · have hk : w.connection? (.connect r level cb) = some ⟨⟨g, r.slot⟩, level, cb⟩ := by
      simp only [connection?, Step.connection?, RouteRef.resolve?, hg, Option.map_some]
    refine follows_of_connection w hk ?_
    rw [capturedIn_of_attaches_eq_none w rfl, attachedAfter_of_not_triesOnce w rfl]
    simp only [perform, withRoute, withGateway, hg]
    exact (effect_connect w ⟨⟨g, r.slot⟩, level, cb⟩).map _

theorem follows_attachLog (r : RouteRef) (level : Level) :
    w.Follows (.attachLog r level) (w.perform (.attachLog r level)) := by
  rcases hg : w.gateways[r.gateway]? with _ | g
  · have hk : w.connection? (.attachLog r level) = none := by
      simp only [connection?, Step.connection?, RouteRef.resolve?, hg, Option.map_none]
    simp only [perform, withRoute, withGateway, hg]
    exact follows_plain w hk rfl rfl
  · have hk : w.connection? (.attachLog r level) = some ⟨⟨g, r.slot⟩, level, some .logger⟩ := by
      simp only [connection?, Step.connection?, RouteRef.resolve?, hg, Option.map_some]
    refine follows_of_connection w hk ?_
    rw [capturedIn_of_attaches w hk hg, attachedAfter_of_not_triesOnce w rfl]
    simp only [perform, withRoute, withGateway, hg]
    exact (effect_attachLog w (r := ⟨g, r.slot⟩) (List.mem_of_getElem? hg) level).map _

theorem follows_attachLogOnce (r : RouteRef) (level : Level) :
    w.Follows (.attachLogOnce r level) (w.perform (.attachLogOnce r level)) := by
  rcases hg : w.gateways[r.gateway]? with _ | g
  · have hk : w.connection? (.attachLogOnce r level) = none := by
      simp only [connection?, Step.connection?, RouteRef.resolve?, hg, Option.map_none, ite_self]
    simp only [perform, withRoute, withGateway, hg]
    exact follows_plain w hk rfl rfl
  obtain ha | ⟨answer, ha⟩ := Option.eq_none_or_eq_some w.attached
  · -- The first attempt is an attachment whose outcome is kept besides.
    have hk : w.connection? (.attachLogOnce r level) = some ⟨⟨g, r.slot⟩, level, some .logger⟩ := by
      simp only [connection?, Step.connection?, RouteRef.resolve?, hg, ha, Option.map_some]
      rfl
    have h := effect_attachLog w (r := ⟨g, r.slot⟩) (List.mem_of_getElem? hg) level
    refine follows_of_connection w hk ?_
    rw [capturedIn_of_attaches w hk hg]
    have hkept : some (w.attachLog ⟨g, r.slot⟩ level).answer =
        w.attachedAfter (.attachLogOnce r level) := by
      simp only [attachedAfter, ha, Option.none_or, Step.triesOnce, RouteRef.resolve?, hg,
        Option.map_some, Option.isSome_some, if_true, hk, attachLog_answer]
    simp only [perform, withRoute, withGateway, hg, attachLogOnce, ha]
    exact ⟨h.slots, h.events, h.records, h.captured, hkept, h.libraries, h.gateways⟩
  · have hk : w.connection? (.attachLogOnce r level) = none := by
      simp only [connection?, Step.connection?, ha]
      rfl
    simp only [perform, withRoute, withGateway, hg, attachLogOnce, ha]
    exact follows_plain w hk rfl rfl

theorem follows_perform (s : Step) : w.Follows s (w.perform s) := by
  cases s with
  | connect r level cb => exact follows_connect w r level cb
  | disconnect r level => exact follows_connect w r level none
  | connectShared i level cb => exact follows_connect w ⟨i, .shared⟩ level cb
  | connectLinked level cb =>
    refine follows_of_connection w rfl ?_
    rw [capturedIn_of_attaches_eq_none w rfl, attachedAfter_of_not_triesOnce w rfl]
    simp only [perform]
    exact (effect_connectLinked w level cb).map _
  | attachLog r level => exact follows_attachLog w r level
  | attachLogOnce r level => exact follows_attachLogOnce w r level
  | inspectRoute r =>
    simp only [perform, withRoute, withGateway]
    split
    · exact follows_plain w rfl rfl rfl
    · exact follows_plain w rfl rfl rfl
  | emit i c =>
    refine follows_of_none w rfl ?_
    exact effect_emit w i c
  | enter name c =>
    refine follows_of_none w rfl ?_
    simp only [perform, deliver_eq]
    exact (Effect.ofRan _ w _).map _
  | deliver name c =>
    refine follows_of_none w rfl ?_
    simp only [perform, deliver_eq]
    exact (Effect.ofRan _ w _).map _
  | log c =>
    refine follows_of_none w rfl ?_
    simp only [perform, log_eq]
    exact (Effect.ofRan _ w _).map _
  | askDomains i =>
    refine follows_of_none w rfl ?_
    simp only [perform, withGateway]
    split
    · rename_i hg
      exact (effect_askDomains w (List.mem_of_getElem? hg)).map _
    · exact Effect.plain _ w
  | setHandles i ds =>
    refine follows_of_none w rfl ?_
    simp only [perform, withGateway]
    split
    · rename_i hg
      exact effect_adjust w (List.mem_of_getElem? hg) (fun lib => ⟨ds, lib.refusal, rfl⟩) .done
    · exact Effect.plain _ w
  | setRefusal i refusal =>
    refine follows_of_none w rfl ?_
    simp only [perform, withGateway]
    split
    · rename_i hg
      exact effect_adjust w (List.mem_of_getElem? hg) (fun lib => ⟨lib.handles, refusal, rfl⟩) .done
    · exact Effect.plain _ w
  | put _ _ | look _ | tag _ | setCeiling _ | setMuted _ =>
    refine follows_of_none w rfl ?_
    exact ⟨rfl, rfl, rfl, rfl, rfl, Effect.libraries_same rfl, rfl⟩

/-! ### Answers -/

/-- A step that connects a route answers as the library does, or, at the entry point of the linked
library, not at all. -/
theorem perform_answer {s : Step} {k : Connection} (hk : w.connection? s = some k) :
    (w.perform s).answer = .result (w.verdict k) ∨
      (∃ level cb, s = .connectLinked level cb) ∧ (w.perform s).answer = .done := by
  cases s with
  | connect r level cb =>
    obtain ⟨g, hg, rfl⟩ := RouteRef.resolve?_map_eq_some hk
    simp only [perform, withRoute, withGateway, hg]
    exact .inl (congrArg _ (connect_answer w ⟨⟨g, r.slot⟩, level, cb⟩))
  | disconnect r level =>
    obtain ⟨g, hg, rfl⟩ := RouteRef.resolve?_map_eq_some hk
    simp only [perform, withRoute, withGateway, hg]
    exact .inl (congrArg _ (connect_answer w ⟨⟨g, r.slot⟩, level, none⟩))
  | connectShared i level cb =>
    obtain ⟨g, hg, rfl⟩ := RouteRef.resolve?_map_eq_some hk
    simp only [perform, withGateway, show w.gateways[i]? = some g from hg]
    exact .inl (congrArg _ (connect_answer w ⟨⟨g, .shared⟩, level, cb⟩))
  | connectLinked level cb => exact .inr ⟨⟨level, cb, rfl⟩, rfl⟩
  | attachLog r level =>
    obtain ⟨g, hg, rfl⟩ := RouteRef.resolve?_map_eq_some hk
    simp only [perform, withRoute, withGateway, hg]
    exact .inl (congrArg _ (attachLog_answer w ⟨g, r.slot⟩ level))
  | attachLogOnce r level =>
    simp only [connection?, Step.connection?] at hk
    split_ifs at hk with ha
    obtain ⟨g, hg, rfl⟩ := RouteRef.resolve?_map_eq_some hk
    have ha' : w.attached = none := by simpa using ha
    simp only [perform, withRoute, withGateway, hg, attachLogOnce, ha', Fault.mapError_copy]
    exact .inl (congrArg _ (attachLog_answer w ⟨g, r.slot⟩ level))
  | _ => simp [connection?, Step.connection?] at hk

theorem eq_verdict_of_answer {s : Step} {k : Connection} {r : Except Fault Unit}
    (hk : w.connection? s = some k) (h : (w.perform s).answer = .result r) : r = w.verdict k := by
  rcases perform_answer w hk with ha | ⟨-, ha⟩
  · exact Answer.result.inj (h.symm.trans ha)
  · cases h.symm.trans ha

end World

end Switchboard
