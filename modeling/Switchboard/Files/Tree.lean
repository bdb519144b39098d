import Switchboard.Fault
import Switchboard.Files.Path
import Switchboard.Library

/-!
# Files

The files of a system, each at a place: the names that lead to it from the root. A place that others
lie below is a directory, and so are the place where the process works and all above it. A path
leads from there, or from the root if it begins with a slash. There are no links, so a double dot
goes back the way that led to a directory, and at the root it stays.

Following a path fails where the system would: at a name that is not there or too long, at a file
that is taken for a directory, and at a path that is empty or too long as a whole. What is put under
a path is found under it (`follow_add`), whether the path leads from the root or not.
-/

namespace Switchboard

inductive FileNode where
  | directory
  | text (content : Bytes)
  | library (image : Image)
  /-- A file that the system does not let anyone read. -/
  | unreadable (reason : OsError)
  deriving DecidableEq, Repr

/-- The names that lead from the root to a file. -/
abbrev Place := List Bytes

structure FileTree where
  /-- Where the process works. -/
  workplace : Place
  /-- The files that were made, the last one first. -/
  files : List (Place × FileNode)
  deriving Repr

namespace FileTree

/-- Nothing but the place where the process works. -/
def empty (workplace : Place) : FileTree :=
  ⟨workplace, []⟩

/-- Where a name leads from a place. An empty part between or after slashes stays, as a single dot
does. -/
def move (place : Place) (name : Bytes) : Place :=
  if name = [] ∨ name = Path.here then place
  else if name = Path.up then place.dropLast
  else place ++ [name]

def start (t : FileTree) (path : Bytes) : Place :=
  if Path.isAbsolute path then [] else t.workplace

/-- The place that a path leads to. -/
def placeOf (t : FileTree) (path : Bytes) : Place :=
  (Path.segments path).foldl move (t.start path)

/-- The places that a path passes, from its start to the one it leads to. -/
def way (t : FileTree) (path : Bytes) : List Place :=
  (Path.segments path).scanl move (t.start path)

/-- Put a file under a path. What the path passes on the way is a directory, if nothing else is
there. -/
def add (t : FileTree) (path : Bytes) (node : FileNode) : FileTree :=
  { t with files := (t.placeOf path, node) :: t.files ++ (t.way path).map fun p => (p, .directory) }

def get? (t : FileTree) (place : Place) : Option FileNode :=
  match t.files.find? fun f => f.1 == place with
  | some f => some f.2
  | none =>
    if place.isPrefixOf t.workplace ∨ (t.files.any fun f => place.isPrefixOf f.1) then
      some .directory
    else none

def nameLimit : Nat := 255

def pathLimit : Nat := 4096

def enter (t : FileTree) (place : Place) (name : Bytes) : Except OsError Place :=
  match t.get? place with
  | some .directory =>
    if nameLimit < name.length then .error .nameTooLong
    else if (t.get? (move place name)).isSome then .ok (move place name)
    else .error .noSuchFile
  | some _ => .error .notADirectory
  | none => .error .noSuchFile

def arrive (t : FileTree) (place : Place) : Except OsError (Place × FileNode) :=
  match t.get? place with
  | some node => .ok (place, node)
  | none => .error .noSuchFile

/-- The file that a path leads to, and its place. -/
def follow (t : FileTree) (path : Bytes) : Except OsError (Place × FileNode) :=
  if path = [] then .error .noSuchFile
  else if pathLimit ≤ path.length then .error .nameTooLong
  else ((Path.segments path).foldlM t.enter (t.start path)).bind t.arrive

/-! ### Following a path -/

variable {t : FileTree} {path : Bytes} {place : Place} {node : FileNode}

theorem get?_of_arrive {p : Place} (h : t.arrive p = .ok (place, node)) :
    t.get? place = some node := by
  unfold arrive at h
  split at h
  · rename_i found hfound
    obtain ⟨rfl, rfl⟩ := Prod.mk.inj (Except.ok.inj h)
    exact hfound
  · cases h

/-- What a path leads to is what is found at its place. -/
theorem get?_of_follow (h : t.follow path = .ok (place, node)) : t.get? place = some node := by
  by_cases he : path = []
  · rw [follow, if_pos he] at h
    cases h
  by_cases hl : pathLimit ≤ path.length
  · rw [follow, if_neg he, if_pos hl] at h
    cases h
  rw [follow, if_neg he, if_neg hl] at h
  rcases hp : (Path.segments path).foldlM t.enter (t.start path) with e | p
  · rw [hp] at h
    cases h
  · rw [hp] at h
    exact get?_of_arrive h

theorem enter_of_directory {name : Bytes} (hd : t.get? place = some .directory)
    (hlen : name.length ≤ nameLimit) (hs : (t.get? (move place name)).isSome) :
    t.enter place name = .ok (move place name) := by
  simp only [enter, hd, if_neg (Nat.not_lt.2 hlen), if_pos hs]

/-- A path is followed to its place if all that it passes are directories. -/
theorem foldlM_enter : ∀ (names : List Bytes) {place : Place},
    (∀ s ∈ names, s.length ≤ nameLimit) →
      (∀ p ∈ (names.scanl move place).dropLast, t.get? p = some .directory) →
      (∀ p ∈ names.scanl move place, (t.get? p).isSome) →
      names.foldlM t.enter place = .ok (names.foldl move place)
  | [], _, _, _, _ => rfl
  | s :: ss, place, hlen, hdirs, hsome => by
    rw [List.scanl_cons] at hdirs hsome
    rw [List.dropLast_cons_of_ne_nil List.scanl_ne_nil] at hdirs
    have hmem : move place s ∈ ss.scanl move (move place s) :=
      List.mem_of_mem_head? List.head?_scanl
    have hstep := enter_of_directory (hdirs place List.mem_cons_self)
      (hlen s List.mem_cons_self) (hsome _ (List.mem_cons_of_mem _ hmem))
    rw [List.foldlM_cons, hstep]
    exact foldlM_enter ss (fun n hn => hlen n (List.mem_cons_of_mem s hn))
      (fun p hp => hdirs p (List.mem_cons_of_mem _ hp))
      (fun p hp => hsome p (List.mem_cons_of_mem _ hp))

theorem get?_add_self : (t.add path node).get? (t.placeOf path) = some node := by
  simp [add, get?]

theorem isSome_get?_of_mem {f : Place × FileNode} (h : f ∈ t.files) : (t.get? f.1).isSome := by
  unfold get?
  split
  · rfl
  · rename_i hnone
    exact absurd (beq_self_eq_true f.1) (List.find?_eq_none.1 hnone f h)

/-- What is put under a path is found under it, if nothing but directories is on the way. -/
theorem follow_add (hne : path ≠ []) (hlen : path.length < pathLimit)
    (hnames : ∀ s ∈ Path.segments path, s.length ≤ nameLimit)
    (hdirs : ∀ p ∈ (t.way path).dropLast, (t.add path node).get? p = some .directory) :
    (t.add path node).follow path = .ok (t.placeOf path, node) := by
  have hsome : ∀ p ∈ t.way path, ((t.add path node).get? p).isSome := by
    intro p hp
    have hmem : (p, FileNode.directory) ∈ (t.way path).map fun p => (p, FileNode.directory) :=
      List.mem_map_of_mem hp
    have hfile : (p, FileNode.directory) ∈ (t.add path node).files :=
      List.mem_append_right ((t.placeOf path, node) :: t.files) hmem
    exact isSome_get?_of_mem hfile
  have hfold : (Path.segments path).foldlM (t.add path node).enter ((t.add path node).start path) =
      .ok (t.placeOf path) := foldlM_enter (Path.segments path) hnames hdirs hsome
  rw [follow, if_neg hne, if_neg (Nat.not_le.2 hlen), hfold]
  show (t.add path node).arrive (t.placeOf path) = _
  rw [arrive, get?_add_self]

/-! ### Reading a file -/

def zeroByteText : String := "file name contained an unexpected NUL byte"

def notTextText : String := "stream did not contain valid UTF-8"

def readText (t : FileTree) (path : Bytes) : Except Fault String :=
  if path.contains 0 then .error (.io zeroByteText)
  else
    match t.follow path with
    | .error e => .error (.io e.message)
    | .ok (_, .directory) => .error (.io OsError.isADirectory.message)
    | .ok (_, .unreadable reason) => .error (.io reason.message)
    | .ok (_, .library _) => .error (.io notTextText)
    | .ok (_, .text content) =>
      match Utf8.decode? content with
      | some s => .ok s
      | none => .error (.io notTextText)

end FileTree

end Switchboard
