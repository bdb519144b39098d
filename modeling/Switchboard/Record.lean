/-!
# Log records

What is logged is a list of records, each with a severity, a target and a text. A filter decides
which of them are kept: those at least as severe as its ceiling, unless there is none. A target can
be muted besides, but this is only told to those who ask before they log. The logging of events is
alone in asking, so of the records that are logged the events are held back where their target is
muted, and no others.
-/

namespace Switchboard

inductive Severity where
  | error | warn | info | debug | trace
  deriving DecidableEq, Repr

namespace Severity

/-- Smaller is more severe. -/
def rank : Severity → Nat
  | error => 1
  | warn => 2
  | info => 3
  | debug => 4
  | trace => 5

def name : Severity → String
  | error => "ERROR"
  | warn => "WARN"
  | info => "INFO"
  | debug => "DEBUG"
  | trace => "TRACE"

end Severity

/-- What is logged about: the connecting of routes, configurations, the loading of libraries, the
entry point of the linked library, and the events themselves. -/
inductive Target where
  | route | config | loader | entry | events
  deriving DecidableEq, Repr

def Target.name : Target → String
  | route => "c4log_relay::relay"
  | config => "c4log_relay::config"
  | loader => "c4log_relay::dynamic"
  | entry => "c4log_relay::ffi"
  | events => "litecore"

structure Record where
  severity : Severity
  target : Target
  text : String
  deriving DecidableEq, Repr

structure Filter where
  /-- The least severity that is kept; none if nothing is. -/
  ceiling : Option Severity
  muted : List String
  deriving DecidableEq, Repr

namespace Filter

def everything : Filter :=
  ⟨some .trace, []⟩

def admits (f : Filter) (s : Severity) : Bool :=
  match f.ceiling with
  | some c => s.rank ≤ c.rank
  | none => false

/-- What is told to those who ask before they log. -/
def enables (f : Filter) (s : Severity) (t : Target) : Bool :=
  f.admits s && !f.muted.contains t.name

/-- Whether a record comes to be kept, if events are logged by asking first and the rest is not. -/
def keeps (f : Filter) (r : Record) : Bool :=
  f.admits r.severity && !(r.target == .events && f.muted.contains r.target.name)

theorem keeps_of_events (f : Filter) {r : Record} (h : r.target = .events) :
    f.keeps r = f.enables r.severity r.target := by
  simp [keeps, enables, h]

theorem keeps_of_not_events (f : Filter) {r : Record} (h : r.target ≠ .events) :
    f.keeps r = f.admits r.severity := by
  simp [keeps, h]

end Filter

end Switchboard
