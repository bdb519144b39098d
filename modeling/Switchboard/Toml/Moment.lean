import Switchboard.Toml.Number

/-!
# Dates and times

A date is a day that the calendar has; a time goes to the second or beyond, and its minutes may end
with a leap second. A date may be followed by a time, and then by the offset of the place it was
taken at.
-/

namespace Switchboard.Toml

def fixed? (digits : Nat) (s : List Char) : Option (Nat × List Char) :=
  let ds := s.take digits
  if ds.length = digits ∧ ds.all isDigit then some (ofDigits 10 ds, s.drop digits) else none

def expect? (c : Char) : List Char → Option (List Char)
  | d :: r => if d = c then some r else none
  | [] => none

def isLeapYear (year : Nat) : Bool :=
  year % 4 == 0 && (year % 100 != 0 || year % 400 == 0)

def daysInMonth (year month : Nat) : Nat :=
  if month = 2 then (if isLeapYear year then 29 else 28)
  else if month = 4 ∨ month = 6 ∨ month = 9 ∨ month = 11 then 30
  else 31

def date? (s : List Char) : Option (List Char) := do
  let (year, s) ← fixed? 4 s
  let (month, s) ← fixed? 2 (← expect? '-' s)
  let (day, s) ← fixed? 2 (← expect? '-' s)
  if 1 ≤ month ∧ month ≤ 12 ∧ 1 ≤ day ∧ day ≤ daysInMonth year month then some s else none

/-- What is left behind the fraction of a second, which need not be there. -/
def secondFraction? : List Char → Option (List Char)
  | '.' :: r =>
    match r with
    | c :: _ => if isDigit c then some (r.dropWhile isDigit) else none
    | [] => none
  | r => some r

def time? (s : List Char) : Option (List Char) := do
  let (hour, s) ← fixed? 2 s
  let (minute, s) ← fixed? 2 (← expect? ':' s)
  let (second, s) ← fixed? 2 (← expect? ':' s)
  if hour ≤ 23 ∧ minute ≤ 59 ∧ second ≤ 60 then secondFraction? s else none

def isOffset (s : List Char) : Bool :=
  match s with
  | [] => true
  | ['Z'] | ['z'] => true
  | c :: r =>
    let rest := do
      let (hour, r) ← fixed? 2 r
      let (minute, r) ← fixed? 2 (← expect? ':' r)
      if hour ≤ 23 ∧ minute ≤ 59 then some r else none
    (c == '+' || c == '-') && rest == some []

/-- Whether this is a time with an offset or without. -/
def isTimeOfDate (s : List Char) : Bool :=
  match time? s with
  | some r => isOffset r
  | none => false

def isDate (s : List Char) : Bool :=
  date? s == some []

/-- Whether this is a date, a time, or a date and a time with a letter between them. -/
def isMoment (s : List Char) : Bool :=
  match date? s with
  | some [] => true
  | some (c :: r) => (c == 'T' || c == 't') && isTimeOfDate r
  | none => time? s == some []

end Switchboard.Toml
