import Switchboard.Delivery
import Switchboard.Gateway

/-!
# The state of a process

A process has its slots, its gateways with the libraries they lead to, and what the logging of
events keeps: the domains captured when the log was first attached, and the outcome of the first
attempt to attach it once. An operation says what it hands to the log, and the filter's ceiling is
applied to that afterwards (`World.step`); only an event is not handed to the log at all where the
filter says, when asked, that it would not be kept.

A route pairs a gateway with a slot. Connecting a route fills the slot first and registers it after
that, so events that a library logs while it registers reach the new callback, and a refused
registration leaves the new callback in the slot.
-/

namespace Switchboard

structure World where
  slots : Slots
  gateways : List Gateway
  libraries : LibraryId → Library
  captured : Option Domains
  attached : Option (Except Fault Unit)
  filter : Filter

/-- A gateway paired with a slot. -/
structure Route where
  gateway : Gateway
  slot : SlotName
  deriving DecidableEq, Repr

/-- What an operation on the state of the process answers, what state it leaves, which events were
taken note of, and what was logged. -/
structure Outcome (α : Type) where
  answer : α
  world : World
  events : List Event
  records : List Record

namespace Outcome

variable {α β : Type}

/-- An answer with which nothing else happens. -/
def plain (answer : α) (w : World) : Outcome α :=
  ⟨answer, w, [], []⟩

def map (f : α → β) (o : Outcome α) : Outcome β :=
  ⟨f o.answer, o.world, o.events, o.records⟩

def logBefore (records : List Record) (o : Outcome α) : Outcome α :=
  { o with records := records ++ o.records }

def logAfter (o : Outcome α) (records : List Record) : Outcome α :=
  { o with records := o.records ++ records }

/-- An answer with which a delivery happens. -/
def ofDelivery (answer : α) (w : World) (d : Delivery) : Outcome α :=
  ⟨answer, { w with slots := d.slots }, d.events, d.records⟩

end Outcome

namespace World

def fresh (gateways : List Gateway) (libraries : LibraryId → Library) : World :=
  ⟨.empty, gateways, libraries, none, none, .everything⟩

def library (w : World) (g : Gateway) : Library :=
  w.libraries g.library

def setLibrary (w : World) (id : LibraryId) (lib : Library) : World :=
  { w with libraries := fun i => if i = id then lib else w.libraries i }

def put (w : World) (name : SlotName) (cb : Option Callback) : World :=
  { w with slots := w.slots.put name cb }

def deliver (w : World) (name : SlotName) (c : Call) : Outcome Unit :=
  .ofDelivery () w (.deliver w.filter w.captured w.slots name c)

def log (w : World) (c : Call) : Outcome Unit :=
  .ofDelivery () w (.invoke w.filter w.captured w.slots .logger c)

/-- Let the library that a gateway leads to have an event: whether it delivers the event, and what
comes of that. -/
def emit (w : World) (g : Gateway) (c : Call) : Outcome Bool :=
  match (w.library g).destination? c.level with
  | some name => (w.deliver name c).map fun _ => true
  | none => .plain false w

def connectRecord (level : Level) (cb : Option Callback) : Record :=
  let verb := if cb.isSome then "Installing" else "Clearing"
  ⟨.debug, .route, verb ++ " log callback at level " ++ level.display⟩

def refusalRecord (fault : Fault) : Record :=
  ⟨.warn, .route, "Logging facility rejected callback registration: " ++ fault.message⟩

def register (w : World) (r : Route) (level : Level) : Outcome (Except Fault Unit) :=
  match r.gateway.kind.register (w.library r.gateway) level r.slot with
  | .error fault => ⟨.error fault, w, [], [refusalRecord fault]⟩
  | .ok lib =>
    let w := w.setLibrary r.gateway.library lib
    .ofDelivery (.ok ()) w (.deliverAll w.filter w.captured r.slot w.slots (lib.chatter level))

/-- Connect a route to a callback, or to nothing: fill the slot, then register it. -/
def connect (w : World) (r : Route) (level : Level) (cb : Option Callback) :
    Outcome (Except Fault Unit) :=
  ((w.put r.slot cb).register r level).logBefore [connectRecord level cb]

/-- Disconnect a route: its slot stays registered and is empty. -/
def disconnect (w : World) (r : Route) (level : Level) : Outcome (Except Fault Unit) :=
  w.connect r level none

/-- What is logged when the linked library refuses a registration that nobody waits for. -/
def lostRefusalRecord (level : Level) (fault : Fault) : Record :=
  ⟨.warn, .entry, "c4log_setRustCallback(" ++ level.display ++ ") failed: " ++ fault.message⟩

/-- Connect the linked library through the shared slot. A refusal is logged and not answered. -/
def connectLinked (w : World) (level : Level) (cb : Option Callback) : Outcome Unit :=
  let o := w.connect ⟨.linked, .shared⟩ level cb
  let lost :=
    match o.answer with
    | .ok () => []
    | .error fault => [lostRefusalRecord level fault]
  (o.map fun _ => ()).logAfter lost

def askDomains (w : World) (g : Gateway) : Outcome Domains :=
  let (ds, lib, records) := g.kind.askDomains (w.library g)
  ⟨ds, w.setLibrary g.library lib, [], records⟩

/-- Capture the domains that a gateway knows, unless domains have been captured before. -/
def capture (w : World) (g : Gateway) : Outcome Unit :=
  match w.captured with
  | some _ => .plain () w
  | none =>
    let o := w.askDomains g
    ⟨(), { o.world with captured := some o.answer }, o.events, o.records⟩

/-- Attach the log to a route: capture the domains, then connect the route to the logger. -/
def attachLog (w : World) (r : Route) (level : Level) : Outcome (Except Fault Unit) :=
  let o := w.capture r.gateway
  (o.world.connect r level (some .logger)).logBefore o.records

/-- Attach the log unless this has been tried before. The outcome of the first attempt is kept, and
a copy of it is the answer to every attempt. -/
def attachLogOnce (w : World) (r : Route) (level : Level) : Outcome (Except Fault Unit) :=
  match w.attached with
  | some kept => .plain (kept.mapError Fault.copy) w
  | none =>
    let o := w.attachLog r level
    { o with
      answer := o.answer.mapError Fault.copy
      world := { o.world with attached := some o.answer } }

@[simp] theorem setLibrary_libraries_self (w : World) (id : LibraryId) (lib : Library) :
    (w.setLibrary id lib).libraries id = lib := by
  simp [setLibrary]

theorem setLibrary_libraries_of_ne (w : World) {id other : LibraryId} (h : other ≠ id)
    (lib : Library) : (w.setLibrary id lib).libraries other = w.libraries other := by
  simp [setLibrary, h]

end World

end Switchboard
