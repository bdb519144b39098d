import Switchboard.Decimal.Binary64

/-!
# The shortest decimal of a number

The reals that are nearer to a number than to its neighbours form an interval, whose ends belong
to it if the significand is even. The number is written by the point of the coarsest decimal grid
that meets the interval: that point has the fewest digits. Of two points of that grid the nearer
is taken, and of two equally near the greater.

The digits are written out in full, whatever the exponent, and with at least one place behind the
point.
-/

namespace Switchboard.Decimal

/-- Whether `num / den` rounds to `significand * 2 ^ exponent`. The distance to the next smaller
number is halved where the significand is a power of two that could not be one bit shorter. -/
def readsBack (significand : Nat) (exponent : Int) (num den : Nat) : Bool :=
  let below := if significand = Nat.pow 2 52 ∧ -1074 < exponent then 1 else 2
  let (p, q) := scale 2 1 (exponent - 2)
  let value := num * q
  let low := (4 * significand - below) * p * den
  let high := (4 * significand + 2) * p * den
  if significand % 2 = 0 then low ≤ value && value ≤ high else low < value && value < high

/-- The point of the grid of `10 ^ place` that writes the number, if one does. -/
def gridPoint? (s : Nat) (exponent place : Int) : Option Nat :=
  let (p, q) := scale 2 s exponent
  let (u, v) := scale 10 1 place
  let num := p * v
  let den := q * u
  let low := num / den
  let reads (c : Nat) : Bool :=
    let (a, b) := scale 10 c place
    c != 0 && readsBack s exponent a b
  let nearerLow := 2 * (num % den) < den
  match reads low, reads (low + 1) with
  | true, true => some (if nearerLow then low else low + 1)
  | true, false => some low
  | false, true => some (low + 1)
  | false, false => none

/-- The digits and the place of the last one. No number reaches past the 309th place, and the
smallest is written with its last digit in the 324th behind the point. -/
def shortest (significand : Nat) (exponent : Int) : Nat × Int :=
  if significand = 0 then (0, 0) else
  let found := (List.range 1400).findSome? fun (i : Nat) =>
    let place : Int := 309 - i
    (gridPoint? significand exponent place).map (·, place)
  found.getD (0, 0)

/-- `digits * 10 ^ place`, written out with at least one place behind the point. -/
def positional (digits : Nat) (place : Int) : String :=
  let ds := Nat.toDigits 10 digits
  match place with
  | .ofNat k => String.ofList (ds ++ List.replicate k '0' ++ ['.', '0'])
  | .negSucc k =>
    let ds := List.replicate (k + 2 - ds.length) '0' ++ ds
    let whole := ds.length - (k + 1)
    String.ofList (ds.take whole ++ '.' :: ds.drop whole)

def Binary64.text : Binary64 → String
  | .nan => "NaN"
  | .infinite negative => if negative then "-inf" else "inf"
  | .finite negative significand exponent =>
    let (digits, place) := shortest significand exponent
    (if negative then "-" else "") ++ positional digits place

end Switchboard.Decimal
