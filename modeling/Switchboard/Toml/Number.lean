import Switchboard.Decimal.Binary64

/-!
# Numbers

A number is written in digits, between any two of which an underscore may stand. An integer is
decimal with an optional sign and no leading zero, or hexadecimal, octal or binary without a sign;
it has to fit into 64 bits. A number with a fraction or an exponent is rounded to a binary one; what
is too great for that is refused, though what is too small is not.
-/

namespace Switchboard.Toml

def isDigit (c : Char) : Bool :=
  '0' ≤ c && c ≤ '9'

/-- The digits of a number, without the underscores between them. -/
def ungroup? (digit : Char → Bool) : List Char → Option (List Char)
  | [] => none
  | [c] => if digit c then some [c] else none
  | c :: '_' :: r => if digit c then (ungroup? digit r).map (c :: ·) else none
  | c :: r => if digit c then (ungroup? digit r).map (c :: ·) else none

def digitValue (c : Char) : Nat :=
  if isDigit c then c.toNat - 0x30
  else if 'a' ≤ c then c.toNat - 0x61 + 10
  else c.toNat - 0x41 + 10

def ofDigits (base : Nat) (ds : List Char) : Nat :=
  ds.foldl (fun n c => n * base + digitValue c) 0

def splitSign : List Char → Option Bool × List Char
  | '+' :: r => (some false, r)
  | '-' :: r => (some true, r)
  | r => (none, r)

def wholeDigits? (s : List Char) : Option (List Char) :=
  match s with
  | '0' :: _ :: _ => none
  | _ => ungroup? isDigit s

def inRange (n : Int) : Bool :=
  Int64.minValue.toInt ≤ n && n ≤ Int64.maxValue.toInt

def decimalInteger? (s : List Char) : Option Int :=
  let (sign, body) := splitSign s
  (wholeDigits? body).bind fun ds =>
    let n : Int := ofDigits 10 ds
    let n := if sign = some true then -n else n
    if inRange n then some n else none

/-- The base that two characters stand for, and its digits. -/
def radix? : Char → Option (Nat × (Char → Bool))
  | 'x' => some (16, fun c => isDigit c || ('a' ≤ c && c ≤ 'f') || ('A' ≤ c && c ≤ 'F'))
  | 'o' => some (8, fun c => '0' ≤ c && c ≤ '7')
  | 'b' => some (2, fun c => c == '0' || c == '1')
  | _ => none

def radixInteger? : List Char → Option Int
  | '0' :: c :: r =>
    (radix? c).bind fun (base, digit) =>
      (ungroup? digit r).bind fun ds =>
        let n : Int := ofDigits base ds
        if inRange n then some n else none
  | _ => none

def integer? (s : List Char) : Option Int :=
  match radixInteger? s with
  | some n => some n
  | none => decimalInteger? s

/-- What stands before and behind the first character that satisfies `p`, if one does. -/
def splitAtFirst (p : Char → Bool) (s : List Char) : List Char × Option (List Char) :=
  (s.takeWhile fun c => !p c, (s.dropWhile fun c => !p c).tail?)

def exponent? (s : List Char) : Option Int :=
  let (sign, body) := splitSign s
  (ungroup? isDigit body).map fun ds =>
    let n : Int := ofDigits 10 ds
    if sign = some true then -n else n

/-- The digits behind the point; none where there is no point. -/
def fractionDigits? : Option (List Char) → Option (List Char)
  | none => some []
  | some s => ungroup? isDigit s

open Decimal (Binary64)

def fractional? (s : List Char) : Option Binary64 :=
  let (sign, body) := splitSign s
  let (mantissa, exponent) := splitAtFirst (fun c => c == 'e' || c == 'E') body
  let (whole, fraction) := splitAtFirst (· == '.') mantissa
  if exponent.isNone && fraction.isNone then none
  else do
    let ds ← wholeDigits? whole
    let fs ← fractionDigits? fraction
    let e ← match exponent with
      | none => some 0
      | some e => exponent? e
    let x := Binary64.ofDecimal (sign == some true) (ofDigits 10 (ds ++ fs)) (e - fs.length)
    if x = .infinite false then none else some x

def special? (s : List Char) : Option Binary64 :=
  let (sign, body) := splitSign s
  if body = ['i', 'n', 'f'] then some (.infinite (sign == some true))
  else if body = ['n', 'a', 'n'] then some .nan
  else none

def real? (s : List Char) : Option Binary64 :=
  match fractional? s with
  | some x => some x
  | none => special? s

end Switchboard.Toml
