import Switchboard.Toml.Key
import Switchboard.Toml.Scalar
import Switchboard.Toml.Table

/-!
# Values

A value is a scalar, an array or an inline table. Elements of an array may be spread over lines with
comments between them, and the last may be followed by a comma; an inline table keeps to its line,
and ends with an entry.

Arrays and inline tables nest up to a limit, and `value` recurses on what is left of it. The loops
over elements recurse on a number that the length of the text bounds, since each element takes at
least one character.
-/

namespace Switchboard.Toml

def elements (element : Reader Item) : Nat → Reader (List Item)
  | 0, _ => none
  | n + 1, s =>
    match dropTrivia false s with
    | ']' :: r => some ([], r)
    | s =>
      match element s with
      | none => none
      | some (i, r) =>
        match dropTrivia false r with
        | ']' :: r => some ([i], r)
        | ',' :: r => (elements element n r).map fun (is, r) => (i :: is, r)
        | _ => none

/-- An assignment: a key path and the item that it is given. -/
structure Assignment where
  path : List Key
  key : Key
  item : Item

/-- A key path, an equals sign and a value. -/
def assignment (value : Reader Item) : Reader Assignment := fun s =>
  match keyPath s with
  | some (ks, '=' :: r) =>
    match ks.getLast?, value (dropSpaces r) with
    | some key, some (item, r) => some (⟨ks.dropLast, key, item⟩, r)
    | _, _ => none
  | _ => none

def assignments (value : Reader Item) : Nat → Reader (List Assignment)
  | 0, _ => none
  | n + 1, s =>
    match assignment value s with
    | none => none
    | some (a, r) =>
      match dropSpaces r with
      | '}' :: r => some ([a], r)
      | ',' :: r => (assignments value n r).map fun (as, r) => (a :: as, r)
      | _ => none

def assignAll : List Assignment → Origin → Table → Option (Origin × Table)
  | [], o, t => some (o, t)
  | a :: as, o, t => (Table.assign a.path a.key a.item o t).bind fun (o, t) => assignAll as o t

def array (value : Reader Item) (start : Nat) : Reader Item := fun s =>
  (elements value (s.length + 1) s).map fun (is, r) => (.array is ⟨start, r.length⟩, r)

def inlineTable (value : Reader Item) (start : Nat) : Reader Item := fun s =>
  match dropSpaces s with
  | '}' :: r => some (.table (.inline ⟨start, r.length⟩) [], r)
  | s =>
    match assignments value (s.length + 1) s with
    | none => none
    | some (as, r) =>
      (assignAll as (.inline ⟨start, r.length⟩) []).map fun (o, t) => (.table o t, r)

def scalarItem : Reader Item := fun s =>
  (scalar s).map fun (v, r) => (.scalar v ⟨s.length, r.length⟩, r)

/-- A value in which arrays and inline tables nest at most this deep. -/
def value : Nat → Reader Item
  | 0, s => scalarItem s
  | depth + 1, s =>
    match s with
    | '[' :: r => array (value depth) s.length r
    | '\x7b' :: r => inlineTable (value depth) s.length r
    | _ => scalarItem s

end Switchboard.Toml
