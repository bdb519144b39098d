import Switchboard.Toml.Item
import Switchboard.Toml.Moment
import Switchboard.Toml.Quotation

/-!
# Scalars

A scalar is a quotation or a word: letters, digits and a few signs, up to the first character of
another kind. Nothing that may follow a value is part of a word, so a word is a scalar as a whole or
not at all. Only a date may be followed by a time in a word of its own, behind a single space.
-/

namespace Switchboard.Toml

def isWordChar (c : Char) : Bool :=
  c.isAlphanum || c == '+' || c == '-' || c == '_' || c == '.' || c == ':'

def word (s : List Char) : List Char :=
  s.takeWhile isWordChar

def afterWord (s : List Char) : List Char :=
  s.dropWhile isWordChar

def Scalar.ofWord? (w : List Char) : Option Scalar :=
  if w = ['t', 'r', 'u', 'e'] then some (.boolean true)
  else if w = ['f', 'a', 'l', 's', 'e'] then some (.boolean false)
  else if isMoment w then some (.moment w)
  else
    match integer? w with
    | some n => some (.integer n)
    | none => (real? w).map .real

def bareScalar : Reader Scalar := fun s =>
  let w := word s
  let r := afterWord s
  match isDate w, r with
  | true, ' ' :: r' =>
    let v := word r'
    if isTimeOfDate v then some (.moment (w ++ ' ' :: v), afterWord r')
    else some (.moment w, r)
  | _, _ => (Scalar.ofWord? w).map (·, r)

def scalar : Reader Scalar := fun s =>
  match s with
  | '"' :: _ | '\'' :: _ => (quotation s).map fun (cs, r) => (.text cs, r)
  | _ => bareScalar s

end Switchboard.Toml
