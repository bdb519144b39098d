import Switchboard.Toml.Item

/-!
# Building tables

A table is built entry by entry. A path leads from table to table and makes those that are missing;
it leads into the last element of an array of tables, and into no value. What is made once is not
made again: an entry does not replace another, a header names a table that no header has named
before, and dotted keys leave alone what a header or braces have made.
-/

namespace Switchboard.Toml

/-- Whether a path that makes tables of one origin may not pass through a table of another. -/
def Origin.bars (made : Origin) : Origin → Bool
  | .inline _ => true
  | .header _ => made == .dotted
  | .implied | .dotted => false

/-- The text of a table reaches to the end of the last value that was put into it. -/
def Origin.extend (o : Origin) (span : Span) : Origin :=
  match o with
  | .header s => .header (s.through span)
  | o => o

namespace Table

def get? (t : Table) (name : List Char) : Option Item :=
  (List.find? (fun e => e.1.name == name) t).map (·.2)

def replace (t : Table) (name : List Char) (item : Item) : Table :=
  List.map (fun e => if e.1.name == name then (e.1, item) else e) t

def erase (t : Table) (name : List Char) : Table :=
  List.filter (fun e => e.1.name != name) t

/-- Change the table that a path leads to, making tables of the given origin on the way. -/
def alter (made : Origin) (f : Origin → Table → Option (Origin × Table)) :
    List Key → Origin → Table → Option (Origin × Table)
  | [], origin, t => f origin t
  | k :: path, origin, t =>
    match t.get? k.name with
    | none => do
      let (o, inner) ← alter made f path made []
      return (origin, t ++ [(k, .table o inner)])
    | some (.table o inner) =>
      if made.bars o then none
      else do
        let (o, inner) ← alter made f path o inner
        return (origin, t.replace k.name (.table o inner))
    | some (.tables elements) =>
      match elements.getLast? with
      | none => none
      | some (o, last) => do
        let changed ← alter made f path o last
        return (origin, t.replace k.name (.tables (elements.dropLast ++ [changed])))
    | some _ => none

/-- Make an entry of the name `key` in the table that `path` leads to by dotted keys. Only a table
of dotted keys takes an entry by a dotted key, and it takes no other. -/
def assign (path : List Key) (key : Key) (item : Item) :
    Origin → Table → Option (Origin × Table) :=
  let put : Origin → Table → Option (Origin × Table) := fun origin t =>
    if (origin == .dotted) == path.isEmpty || (t.get? key.name).isSome then none
    else some (origin, t ++ [(key, item)])
  alter .dotted put path

/-- Give the table of the name `key` a header. One that the headers of tables below it have implied
is taken up with what it holds, and stands where its own header does. -/
def open? (key : Key) (span : Span) (origin : Origin) (t : Table) : Option (Origin × Table) :=
  match t.get? key.name with
  | none => some (origin, t ++ [(key, .table (.header span) [])])
  | some (.table .implied inner) =>
    some (origin, t.erase key.name ++ [(key, .table (.header span) inner)])
  | some _ => none

def append? (key : Key) (span : Span) (origin : Origin) (t : Table) : Option (Origin × Table) :=
  match t.get? key.name with
  | none => some (origin, t ++ [(key, .tables [(.header span, [])])])
  | some (.tables elements) =>
    some (origin, t.replace key.name (.tables (elements ++ [(.header span, [])])))
  | some _ => none

end Table

end Switchboard.Toml
