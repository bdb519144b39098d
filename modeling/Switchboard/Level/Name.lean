import Switchboard.Fault
import Switchboard.Text.Blank
import Switchboard.Text.Quoted

/-!
# Names of levels

A level is read from its name. Blanks around the name do not count, nor does the case of ASCII
letters; `warn` is read as `warning`. Where no level has the name, the fault shows it as it was
compared: trimmed, and in lower case.
-/

namespace Switchboard.Level

def names : List (List Char × Level) :=
  [("debug".toList, debug), ("verbose".toList, verbose), ("info".toList, info),
    ("warning".toList, warning), ("warn".toList, warning), ("error".toList, error),
    ("none".toList, off)]

/-- A name as it is compared. `Char.toLower` leaves every letter beyond ASCII alone. -/
def fold (s : String) : List Char :=
  (Text.trim s.toList).map Char.toLower

def ofName? (s : String) : Option Level :=
  names.lookup (fold s)

def parse (s : String) : Except Fault Level :=
  match ofName? s with
  | some l => .ok l
  | none =>
    .error (.badData ("Unknown log level name: " ++ Text.quote (String.ofList (fold s))))

def ofRaw (raw : Int8) : Except Fault Level :=
  if (⟨raw⟩ : Level).isKnown then .ok ⟨raw⟩ else .error (.unknownLevel ⟨raw⟩)

end Switchboard.Level
