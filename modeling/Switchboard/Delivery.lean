import Switchboard.Record
import Switchboard.Slots
import Switchboard.Text.Utf8

/-!
# Delivery

An event that reaches a slot is handed to the callback that the slot holds at that moment, if it
holds one. What comes of it is a `Delivery`: the slots as they are afterwards, the events that
callbacks took note of, and what was logged. The logger asks the log filter before it logs an event,
and does nothing else.

A callback can hand its event on, one level lower, and never does so at debug or below; so the level
of the event bounds how often it is handed on, and `invokeAt` recurses on that.
-/

namespace Switchboard

structure Delivery where
  slots : Slots
  events : List Event
  records : List Record
  deriving DecidableEq, Repr

/-- How an event of a level is logged. Debug is logged as a trace and verbose as debug, the others
as their names say; what is off is still an error, and what is unknown is information. -/
def Level.severity (l : Level) : Severity :=
  match l.raw.toInt with
  | 0 => .trace
  | 1 => .debug
  | 2 => .info
  | 3 => .warn
  | 4 => .error
  | 5 => .error
  | _ => .info

namespace Level

/-- How the known levels are logged, from debug up. -/
theorem map_severity_known :
    [debug, verbose, info, warning, error, off].map severity =
      [.trace, .debug, .info, .warn, .error, .error] := by
  decide

/-- Every other level is logged as information. -/
theorem severity_of_unknown {l : Level} (h : l.isKnown = false) : l.severity = .info := by
  have hrange : ¬ (0 ≤ l.raw.toInt ∧ l.raw.toInt ≤ 5) := by
    rw [← isKnown_iff, h]
    exact Bool.false_ne_true
  unfold severity
  split
  all_goals first | rfl | omega

end Level

/-- The tag of a handle, by the domains that have been captured. -/
def capturedTag (captured : Option Domains) (h : Handle) : String :=
  match captured with
  | some ds => ds.tagOf h
  | none => unknownTag

namespace Call

/-- The text of an event's message: its bytes as far as they are text. -/
def body (c : Call) : String :=
  match c.message with
  | some bytes => Utf8.lossy bytes
  | none => "<null>"

def toRecord (captured : Option Domains) (c : Call) : Record :=
  ⟨c.level.severity, .events, capturedTag captured c.domain ++ " " ++ c.body⟩

/-- What the logger logs of an event: nothing if it is told that this would be in vain. -/
def records (filter : Filter) (captured : Option Domains) (c : Call) : List Record :=
  if filter.enables c.level.severity .events then [c.toRecord captured] else []

def lower (c : Call) : Call :=
  { c with level := c.level.pred }

end Call

namespace Delivery

def idle (slots : Slots) : Delivery :=
  ⟨slots, [], []⟩

/-- Hand an event to a callback, `depth` being how often it can still be handed on. -/
def invokeAt (filter : Filter) (captured : Option Domains) :
    Nat → Slots → Callback → Call → Delivery
  | depth, slots, cb, c =>
    match cb with
    | .first | .second => ⟨slots, [⟨cb, c⟩], []⟩
    | .clear => ⟨slots.put .shared none, [⟨cb, c⟩], []⟩
    | .replace => ⟨slots.put .shared (some .first), [⟨cb, c⟩], []⟩
    | .logger => ⟨slots, [], c.records filter captured⟩
    | .nest =>
      match depth, slots.shared with
      | 0, _ | _, none => ⟨slots, [⟨cb, c⟩], []⟩
      | depth + 1, some next =>
        let d := invokeAt filter captured depth slots next c.lower
        { d with events := ⟨cb, c⟩ :: d.events }

def invoke (filter : Filter) (captured : Option Domains) (slots : Slots) (cb : Callback)
    (c : Call) : Delivery :=
  invokeAt filter captured c.level.depth slots cb c

def deliver (filter : Filter) (captured : Option Domains) (slots : Slots) (name : SlotName)
    (c : Call) : Delivery :=
  match slots.get name with
  | some cb => invoke filter captured slots cb c
  | none => idle slots

def deliverAll (filter : Filter) (captured : Option Domains) (name : SlotName) :
    Slots → List Call → Delivery
  | slots, [] => idle slots
  | slots, c :: cs =>
    let d := deliver filter captured slots name c
    let rest := deliverAll filter captured name d.slots cs
    ⟨rest.slots, d.events ++ rest.events, d.records ++ rest.records⟩

end Delivery

end Switchboard
