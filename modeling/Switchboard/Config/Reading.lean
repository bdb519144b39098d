import Switchboard.Config.Basic
import Switchboard.Files.Tree
import Switchboard.Level.Datum
import Switchboard.Record
import Switchboard.Decimal.Shortest
import Switchboard.Toml.Document
import Switchboard.Toml.Excerpt

/-!
# Reading configurations

A configuration is read from the root table of a document: the level from `min_level`, the library
from `library`. Other keys are ignored, and what is missing keeps its default. Of two values that
cannot be read the first in the document is reported, with an excerpt that shows it.

A text that is no document is reported without one.
-/

namespace Switchboard.Config

/-- Stands for what is said of a text that is no document. -/
def syntaxText : String := "<syntax>"

/-- Why a value is no path. -/
def pathMismatch (item : Toml.Item) : String :=
  let what :=
    match item with
    | .scalar (.integer n) _ => "integer `" ++ toString n ++ "`"
    | .scalar (.real x) _ => "floating point `" ++ x.text ++ "`"
    | .scalar (.boolean b) _ => "boolean `" ++ (if b then "true" else "false") ++ "`"
    | .scalar (.text s) _ => "string " ++ Text.quote (String.ofList s)
    | .scalar (.moment _) _ => "map"
    | .array _ _ => "sequence"
    | .table _ _ => "map"
    | .tables _ => "sequence"
  "invalid type: " ++ what ++ ", expected path string"

def readPath : Toml.Item → Except String Bytes
  | .scalar (.text s) _ => .ok (Utf8.encodeChars s)
  | item => .error (pathMismatch item)

def readLevel (item : Toml.Item) : Except String Level :=
  (Level.ofDatum item.toDatum).mapError Level.Mismatch.message

def levelKey : List Char := "min_level".toList
def libraryKey : List Char := "library".toList

structure BadValue where
  span : Toml.Span
  reason : String
  deriving DecidableEq, Repr

/-- Take one entry of the root table into a configuration. A table without text of its own is shown
by its key. -/
def readEntry (c : Config) : Toml.Key × Toml.Item → Except BadValue Config
  | (key, item) =>
    let fail (reason : String) : BadValue := ⟨item.span?.getD key.span, reason⟩
    if key.name = levelKey then
      match readLevel item with
      | .ok l => .ok (c.choose (.minLevel l))
      | .error reason => .error (fail reason)
    else if key.name = libraryKey then
      match readPath item with
      | .ok path => .ok (c.choose (.library path))
      | .error reason => .error (fail reason)
    else .ok c

def readEntries : Config → Toml.Table → Except BadValue Config
  | c, [] => .ok c
  | c, e :: es =>
    match readEntry c e with
    | .ok c => readEntries c es
    | .error bad => .error bad

def ofTable (t : Toml.Table) : Except BadValue Config :=
  readEntries default t

def parse (text : String) : Except Fault Config :=
  match Toml.parse? text.toList with
  | none => .error (.badConfig syntaxText)
  | some t =>
    match ofTable t with
    | .ok c => .ok c
    | .error bad => .error (.badConfig ((Toml.Excerpt.of text.toList bad.span).render bad.reason))

/-- Say of a fault in a configuration which file it is in. -/
def inFile (path : Bytes) : Fault → Fault
  | .badConfig text => .badConfig (Path.display path ++ ": " ++ text)
  | fault => fault

def loadRecord (path : Bytes) : Record :=
  ⟨.debug, .config, "Loading relay config from: " ++ Text.quoteBytes path⟩

/-- Load a configuration from a file, and say what is logged. -/
def load (files : FileTree) (path : Bytes) : Except Fault Config × List Record :=
  let result := do
    let text ← files.readText path
    (parse text).mapError (inFile path)
  (result, [loadRecord path])

end Switchboard.Config
