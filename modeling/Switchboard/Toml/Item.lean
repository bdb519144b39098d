import Switchboard.Datum

/-!
# Items of a document

A document is a table, and a table maps keys to items: scalars, arrays, tables, and arrays of
tables, which are written header by header. Where an item stands in the text is kept as a `Span`.
Its bounds count the characters from there to the end of the text, so a reader needs nothing but
what is left of the text to know where it is.
-/

namespace Switchboard.Toml

structure Span where
  /-- How many characters are left where the span begins. -/
  start : Nat
  /-- How many characters are left behind the span. -/
  stop : Nat
  deriving DecidableEq, Repr

/-- From the beginning of one span to the end of another. -/
def Span.through (a b : Span) : Span :=
  ⟨a.start, b.stop⟩

structure Key where
  name : List Char
  span : Span
  deriving DecidableEq, Repr

inductive Scalar where
  | text (s : List Char)
  | integer (n : Int)
  | real (x : Decimal.Binary64)
  | boolean (b : Bool)
  /-- A date, a time, or both, as it is written. -/
  | moment (written : List Char)
  deriving DecidableEq, Repr

/-- What made a table: a header of its own, the header of a table below it, a dotted key, or
braces. -/
inductive Origin where
  | header (span : Span)
  | implied
  | dotted
  | inline (span : Span)
  deriving DecidableEq, Repr

inductive Item where
  | scalar (value : Scalar) (span : Span)
  | array (items : List Item) (span : Span)
  | table (origin : Origin) (entries : List (Key × Item))
  | tables (elements : List (Origin × List (Key × Item)))

abbrev Table := List (Key × Item)

def Origin.span? : Origin → Option Span
  | header span => some span
  | implied => none
  | dotted => none
  | inline span => some span

/-- The text of an item. An array of tables reaches from its first header to its last element. -/
def Item.span? : Item → Option Span
  | scalar _ span => some span
  | array _ span => some span
  | table origin _ => origin.span?
  | tables elements =>
    match elements.head?.bind (·.1.span?), elements.getLast?.bind (·.1.span?) with
    | some a, some b => some (a.through b)
    | _, _ => none

def Scalar.toDatum : Scalar → Datum
  | text s => .text (String.ofList s)
  | integer n => .integer n
  | real x => .real x
  | boolean b => .boolean b
  | moment written => .record [("moment", .text (String.ofList written))]

mutual

def Item.toDatum : Item → Datum
  | .scalar value _ => value.toDatum
  | .array items _ => .list (listToData items)
  | .table _ entries => .record (tableToFields entries)
  | .tables elements => .list (elementsToData elements)

def listToData : List Item → List Datum
  | [] => []
  | i :: is => i.toDatum :: listToData is

def tableToFields : List (Key × Item) → List (String × Datum)
  | [] => []
  | (k, i) :: es => (String.ofList k.name, i.toDatum) :: tableToFields es

def elementsToData : List (Origin × List (Key × Item)) → List Datum
  | [] => []
  | (_, t) :: ts => .record (tableToFields t) :: elementsToData ts

end

end Switchboard.Toml
