import Switchboard.World

/-!
# Runs

A run is a list of steps. Each step answers, and reports the events that were taken note of and the
records that the log keeps of what is handed to it. A step whose gateway does not exist answers so,
and changes nothing.
-/

namespace Switchboard

/-- A route over one of the gateways, which are counted from zero. -/
structure RouteRef where
  gateway : Nat
  slot : SlotName
  deriving DecidableEq, Repr

inductive Step where
  | connect (route : RouteRef) (level : Level) (cb : Option Callback)
  | disconnect (route : RouteRef) (level : Level)
  /-- Connect a gateway through the shared slot. -/
  | connectShared (gateway : Nat) (level : Level) (cb : Option Callback)
  | connectLinked (level : Level) (cb : Option Callback)
  | attachLog (route : RouteRef) (level : Level)
  | attachLogOnce (route : RouteRef) (level : Level)
  | inspectRoute (route : RouteRef)
  | emit (gateway : Nat) (call : Call)
  /-- Call the entry point of a slot, as a library does. -/
  | enter (slot : SlotName) (call : Call)
  | deliver (slot : SlotName) (call : Call)
  | log (call : Call)
  | put (slot : SlotName) (cb : Option Callback)
  | look (slot : SlotName)
  /-- Ask for the tag of a handle, by the domains that have been captured. -/
  | tag (handle : Handle)
  | askDomains (gateway : Nat)
  /-- Change the handles of a library that is part of the program. -/
  | setHandles (gateway : Nat) (handles : Domains)
  /-- Let a library that is part of the program refuse registrations, or take them again. -/
  | setRefusal (gateway : Nat) (refusal : Option Fault)
  | setCeiling (ceiling : Option Severity)
  | setMuted (targets : List String)
  deriving DecidableEq, Repr

inductive Answer where
  | done
  | result (r : Except Fault Unit)
  | delivered (yes : Bool)
  /-- What a slot holds, whether it holds anything, and what it shows of itself. -/
  | held (cb : Option Callback) (filled : Bool) (inspected : Option String)
  /-- Whether the slot of a route holds anything. -/
  | route (filled : Bool)
  | tag (text : String)
  | domains (ds : Domains)
  | noGateway

namespace World

def adjust (w : World) (g : Gateway) (change : Library → Library) : World :=
  match g.kind with
  | .inner | .bare => w.setLibrary g.library (change (w.library g))
  | .linked | .opened _ => w

/-- Answer by means of a gateway, if there is one at this place. -/
def withGateway (w : World) (place : Nat) (run : Gateway → Outcome Answer) : Outcome Answer :=
  match w.gateways[place]? with
  | some g => run g
  | none => .plain .noGateway w

def withRoute (w : World) (r : RouteRef) (run : Route → Outcome Answer) : Outcome Answer :=
  w.withGateway r.gateway fun g => run ⟨g, r.slot⟩

/-- What a step does, with all that it hands to the log. -/
def perform (w : World) : Step → Outcome Answer
  | .connect r level cb => w.withRoute r fun r => (w.connect r level cb).map .result
  | .disconnect r level => w.withRoute r fun r => (w.disconnect r level).map .result
  | .connectShared g level cb =>
    w.withGateway g fun g => (w.connect ⟨g, .shared⟩ level cb).map .result
  | .connectLinked level cb => (w.connectLinked level cb).map fun _ => .done
  | .attachLog r level => w.withRoute r fun r => (w.attachLog r level).map .result
  | .attachLogOnce r level => w.withRoute r fun r => (w.attachLogOnce r level).map .result
  | .inspectRoute r => w.withRoute r fun r => .plain (.route (w.slots.isFilled r.slot)) w
  | .emit g c => w.withGateway g fun g => (w.emit g c.wire).map .delivered
  | .enter name c | .deliver name c => (w.deliver name c.wire).map fun _ => .done
  | .log c => (w.log c.wire).map fun _ => .done
  | .put name cb => .plain .done (w.put name cb)
  | .look name =>
    .plain (.held (w.slots.get name) (w.slots.isFilled name) (w.slots.inspect? name)) w
  | .tag h => .plain (.tag (capturedTag w.captured h)) w
  | .askDomains g => w.withGateway g fun g => (w.askDomains g).map .domains
  | .setHandles g ds =>
    w.withGateway g fun g => .plain .done (w.adjust g fun lib => { lib with handles := ds })
  | .setRefusal g refusal =>
    w.withGateway g fun g => .plain .done (w.adjust g fun lib => { lib with refusal := refusal })
  | .setCeiling ceiling => .plain .done { w with filter := { w.filter with ceiling := ceiling } }
  | .setMuted targets => .plain .done { w with filter := { w.filter with muted := targets } }

/-- What a step does, with what the log keeps under the ceiling in force. -/
def step (w : World) (s : Step) : Outcome Answer :=
  let o := w.perform s
  { o with records := o.records.filter fun r => w.filter.admits r.severity }

def run : World → List Step → List (Outcome Answer)
  | _, [] => []
  | w, s :: steps => w.step s :: run (w.step s).world steps

def after (w : World) (steps : List Step) : World :=
  steps.foldl (fun w s => (w.step s).world) w

theorem length_run (w : World) (steps : List Step) : (w.run steps).length = steps.length := by
  induction steps generalizing w with
  | nil => rfl
  | cons s steps ih => simp [run, ih]

theorem after_append (w : World) (a b : List Step) :
    w.after (a ++ b) = (w.after a).after b := by
  simp [after]

end World

end Switchboard
