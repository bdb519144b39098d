import Switchboard.Toml.Value

/-!
# Documents

A document is a list of statements, a line each unless a value spreads over several: assignments,
and headers that say into which table the assignments after them go. Its table is built from the
statements in order. A byte order mark before the first line is no part of it.
-/

namespace Switchboard.Toml

inductive Statement where
  | assign (a : Assignment)
  | openTable (path : List Key) (key : Key) (span : Span)
  | appendTable (path : List Key) (key : Key) (span : Span)

def headerPath : Reader (List Key × Key) := fun s =>
  match keyPath s with
  | some (ks, ']' :: r) => ks.getLast?.map fun key => ((ks.dropLast, key), r)
  | _ => none

/-- A statement, without the rest of its line. -/
def statement : Reader Statement := fun s =>
  match s with
  | '[' :: '[' :: r =>
    match headerPath r with
    | some ((path, key), ']' :: r) => some (.appendTable path key ⟨s.length, r.length⟩, r)
    | _ => none
  | '[' :: r =>
    (headerPath r).map fun ((path, key), r) => (.openTable path key ⟨s.length, r.length⟩, r)
  | _ => (assignment (value (depthLimit - 1)) s).map fun (a, r) => (.assign a, r)

/-- The statements of a text, the number bounding that of its lines. -/
def statementsOf : Nat → List Char → Option (List Statement)
  | 0, _ => none
  | n + 1, s =>
    match dropSpaces s with
    | [] => some []
    | s =>
      match lineEnd? s with
      | some r => statementsOf n r
      | none =>
        match statement s with
        | none => none
        | some (st, r) =>
          match lineEnd? r with
          | none => none
          | some r => (statementsOf n r).map (st :: ·)

def dropMark : List Char → List Char
  | '\uFEFF' :: r => r
  | s => s

def statements? (text : List Char) : Option (List Statement) :=
  let s := dropMark text
  statementsOf (s.length + 1) s

/-- A document in the making: its table, and the path of the header that is in force. -/
structure Draft where
  root : Table
  here : List Key

namespace Draft

def empty : Draft := ⟨[], []⟩

/-- Change the table that a path of headers leads to. -/
def alter (d : Draft) (path : List Key) (f : Origin → Table → Option (Origin × Table)) :
    Option Table :=
  (Table.alter .implied f path (.header ⟨0, 0⟩) d.root).map (·.2)

/-- Put an assignment into the table of the header in force. -/
def assign (d : Draft) (a : Assignment) : Option Draft :=
  let put : Origin → Table → Option (Origin × Table) := fun o t =>
    let o := match a.item.span? with
      | some span => o.extend span
      | none => o
    Table.assign a.path a.key a.item o t
  (d.alter d.here put).map fun root => { d with root := root }

def add (d : Draft) : Statement → Option Draft
  | .assign a => d.assign a
  | .openTable path key span =>
    (d.alter path (Table.open? key span)).map fun root => ⟨root, path ++ [key]⟩
  | .appendTable path key span =>
    (d.alter path (Table.append? key span)).map fun root => ⟨root, path ++ [key]⟩

end Draft

def tableOfStatements? (sts : List Statement) : Option Table :=
  (sts.foldlM Draft.add .empty).map (·.root)

def parse? (text : List Char) : Option Table :=
  (statements? text).bind tableOfStatements?

end Switchboard.Toml
