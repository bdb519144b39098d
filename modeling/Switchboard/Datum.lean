import Switchboard.Decimal.Binary64

/-!
# Data

A datum is a value of a data format: nothing, a truth value, a number, a text, a list or a record.
-/

namespace Switchboard

inductive Datum where
  | null
  | boolean (b : Bool)
  | integer (n : Int)
  | real (x : Decimal.Binary64)
  | text (s : String)
  | list (items : List Datum)
  | record (fields : List (String × Datum))
  deriving Inhabited

end Switchboard
