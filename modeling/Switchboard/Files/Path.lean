import Switchboard.Text.Utf8

/-!
# Paths

A path is a byte string, read as names between slashes. Two paths are the same if their components
are: repeated slashes, a slash at the end, and single dots that do not open the path are no
components. A double dot is one, since only the files can tell where it leads.
-/

namespace Switchboard.Path

def slash : UInt8 := 0x2F

def here : Bytes := [0x2E]

def up : Bytes := [0x2E, 0x2E]

/-- What lies between the slashes of a path, empty parts included. -/
def segments : Bytes → List Bytes
  | [] => [[]]
  | b :: bs =>
    if b = slash then [] :: segments bs
    else
      match segments bs with
      | [] => [[b]]
      | s :: rest => (b :: s) :: rest

inductive Component where
  | root
  | here
  | up
  | name (bytes : Bytes)
  deriving DecidableEq, Repr

def isAbsolute (p : Bytes) : Bool :=
  p.head? == some slash

/-- The components of what follows the opening of a path. -/
def inner (parts : List Bytes) : List Component :=
  (parts.filter fun s => s != [] && s != here).map fun s => if s = up then .up else .name s

def components (p : Bytes) : List Component :=
  match segments p with
  | [] => []
  | s :: rest =>
    if isAbsolute p then .root :: inner rest
    else if s = here then .here :: inner rest
    else inner (s :: rest)

def same (p q : Bytes) : Bool :=
  components p == components q

/-- A path without the zero byte that closes it, if one does. -/
def unclosed (p : Bytes) : Bytes :=
  if p.getLast? = some 0 then p.dropLast else p

/-- A path as it is shown: what is not text is replaced. -/
def display (p : Bytes) : String :=
  Utf8.lossy p

theorem same_refl (p : Bytes) : same p p := by
  simp [same]

theorem unclosed_append_zero (p : Bytes) : unclosed (p ++ [0]) = p := by
  simp [unclosed]

theorem unclosed_of_not_mem {p : Bytes} (h : 0 ∉ p) : unclosed p = p := by
  have hlast : p.getLast? ≠ some 0 := fun hl => h (List.mem_of_getLast? hl)
  simp [unclosed, hlast]

end Switchboard.Path
