import Switchboard.Toml.Item
import Switchboard.Toml.Quotation

/-!
# Keys

A key is a path of segments with dots between them and blanks around the dots. A segment is a bare
word or a quotation of one line, and its span leaves the blanks out. A path stays below a fixed
number of segments.
-/

namespace Switchboard.Toml

def depthLimit : Nat := 80

def isBareKeyChar (c : Char) : Bool :=
  c.isAlphanum || c == '_' || c == '-'

def segmentName : Reader (List Char) := fun s =>
  match s with
  | '"' :: _ | '\'' :: _ => quotedLine s
  | _ =>
    let name := s.takeWhile isBareKeyChar
    if name = [] then none else some (name, s.dropWhile isBareKeyChar)

def segment : Reader Key := fun s =>
  let s := dropSpaces s
  (segmentName s).map fun (name, r) => (⟨name, s.length, r.length⟩, dropSpaces r)

/-- A path of at most this many segments, with the blanks around it. -/
def keyPathOf : Nat → Reader (List Key)
  | 0, _ => none
  | limit + 1, s =>
    match segment s with
    | none => none
    | some (k, '.' :: r) => (keyPathOf limit r).map fun (ks, r) => (k :: ks, r)
    | some (k, r) => some ([k], r)

def keyPath : Reader (List Key) :=
  keyPathOf (depthLimit - 1)

end Switchboard.Toml
