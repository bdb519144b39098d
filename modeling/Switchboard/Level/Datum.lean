import Switchboard.Datum
import Switchboard.Level.Name

/-!
# Levels as data

A known level is written as its name and any other as its number. A text is read as a name, and an
integer of eight bits as a number, which has to be that of a known level. No other datum is read: an
integer is not wrapped into eight bits, and a number with a fractional part is not an integer even
if that part is zero.
-/

namespace Switchboard.Level

inductive Mismatch where
  | fault (f : Fault)
  | shape
  deriving DecidableEq, Repr

def Mismatch.message : Mismatch → String
  | fault f => f.message
  | shape => "data did not match any variant of untagged enum Repr"

def toDatum (l : Level) : Datum :=
  match l.name? with
  | some name => .text name
  | none => .integer l.raw.toInt

def ofDatum : Datum → Except Mismatch Level
  | .text s => (parse s).mapError .fault
  | .integer n =>
    match ofInt? n with
    | some l => (ofRaw l.raw).mapError .fault
    | none => .error .shape
  | _ => .error .shape

end Switchboard.Level
