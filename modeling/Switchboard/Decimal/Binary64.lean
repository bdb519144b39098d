/-!
# Binary numbers of 64 bits

A finite number is a significand of at most 53 bits times a power of two, the exponent between
-1074 and 971. A decimal stands for the nearest such number, and of two that are equally near for
the one with the even significand; from the middle between the greatest number and the next power
of two on it stands for infinity.
-/

namespace Switchboard.Decimal

inductive Binary64 where
  | finite (negative : Bool) (significand : Nat) (exponent : Int)
  | infinite (negative : Bool)
  | nan
  deriving DecidableEq, Repr

/-- The integer nearest to a quotient, of two equally near the even one. -/
def roundQuotient (num den : Nat) : Nat :=
  let q := num / den
  let r := num % den
  if den < 2 * r ∨ (den = 2 * r ∧ q % 2 = 1) then q + 1 else q

/-- The numerator and denominator of `n * b ^ e`. -/
def scale (b n : Nat) (e : Int) : Nat × Nat :=
  match e with
  | .ofNat k => (n * b.pow k, 1)
  | .negSucc k => (n, b.pow (k + 1))

/-- The exponent of the leading bit of a positive quotient. -/
def leadingBit (num den : Nat) : Int :=
  let k : Int := num.log2 - den.log2
  let (p, q) := scale 2 den k
  if num * q < p then k - 1 else k

def Binary64.ofQuotient (negative : Bool) (num den : Nat) : Binary64 :=
  let exponent := max (leadingBit num den - 52) (-1074)
  let (p, q) := scale 2 den exponent
  let significand := roundQuotient (num * q) p
  let (significand, exponent) :=
    if significand = Nat.pow 2 53 then (Nat.pow 2 52, exponent + 1) else (significand, exponent)
  if 971 < exponent then .infinite negative else .finite negative significand exponent

/-- The number that `digits * 10 ^ exponent` stands for. A leading digit beyond the 310th place
needs no arithmetic to be out of range, nor does one that far behind the point to vanish. -/
def Binary64.ofDecimal (negative : Bool) (digits : Nat) (exponent : Int) : Binary64 :=
  let places : Int := (Nat.toDigits 10 digits).length + exponent
  if digits = 0 ∨ places < -330 then .finite negative 0 (-1074)
  else if 310 < places then .infinite negative
  else
    let (num, den) := scale 10 digits exponent
    .ofQuotient negative num den

end Switchboard.Decimal
