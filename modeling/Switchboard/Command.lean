import Switchboard.Config.Reading
import Switchboard.Opening

/-!
# The command line

The command opens a library, attaches the log to it through the shared slot, and keeps it attached
until the input ends. It is told the library and the level by its first two positional arguments, or
else by a configuration file. Each file that is named is loaded as it is reached, and the last one
counts. Positional arguments override the file, wherever they stand.
-/

namespace Switchboard.Command

structure Report where
  code : Nat
  output : String
  errors : List String
  deriving DecidableEq, Repr

/-- Why the command stops before it attaches the log. -/
inductive Refusal where
  /-- The option for a file is the last argument. -/
  | missingPath
  | noLibrary
  | badLevel (fault : Fault)
  | badConfig (fault : Fault)
  | notOpened (fault : Fault)
  deriving DecidableEq, Repr

def option : String := "--config"

/-- The lines of a text, without the line feeds between them. -/
def linesOf : List Char → List (List Char)
  | [] => [[]]
  | c :: cs =>
    if c = '\n' then [] :: linesOf cs
    else
      match linesOf cs with
      | [] => [[c]]
      | line :: rest => (c :: line) :: rest

def faultLines (fault : Fault) : List String :=
  (linesOf ("Error: " ++ fault.message).toList).map String.ofList

theorem linesOf_ne_nil : ∀ cs, linesOf cs ≠ []
  | [] => List.cons_ne_nil _ _
  | c :: cs => by
    rw [linesOf]
    split
    · exact List.cons_ne_nil _ _
    · split
      · exact List.cons_ne_nil _ _
      · exact List.cons_ne_nil _ _

/-- A character that ends no line is the first of the line that it stands in. -/
theorem exists_linesOf_cons {c : Char} (hc : c ≠ '\n') (cs : List Char) :
    ∃ line rest, linesOf cs = line :: rest ∧ linesOf (c :: cs) = (c :: line) :: rest := by
  obtain ⟨line, rest, h⟩ := List.exists_cons_of_ne_nil (linesOf_ne_nil cs)
  exact ⟨line, rest, h, by rw [linesOf, if_neg hc, h]⟩

theorem not_mem_of_mem_linesOf : ∀ (cs : List Char), ∀ line ∈ linesOf cs, '\n' ∉ line
  | [] => List.forall_mem_singleton.2 List.not_mem_nil
  | c :: cs => by
    have ih := not_mem_of_mem_linesOf cs
    by_cases hc : c = '\n'
    · rw [linesOf, if_pos hc]
      exact List.forall_mem_cons.2 ⟨List.not_mem_nil, ih⟩
    · obtain ⟨line, rest, h, hcons⟩ := exists_linesOf_cons hc cs
      rw [h] at ih
      obtain ⟨hline, hrest⟩ := List.forall_mem_cons.1 ih
      rw [hcons]
      exact List.forall_mem_cons.2 ⟨List.not_mem_cons_of_ne_of_not_mem (Ne.symm hc) hline, hrest⟩

/-- With line feeds between them the lines are the text. -/
theorem intercalate_linesOf : ∀ cs, List.intercalate ['\n'] (linesOf cs) = cs
  | [] => rfl
  | c :: cs => by
    have ih := intercalate_linesOf cs
    by_cases hc : c = '\n'
    · rw [linesOf, if_pos hc, List.intercalate_cons_of_ne_nil (linesOf_ne_nil cs), ih, hc]
      rfl
    · obtain ⟨line, rest, h, hcons⟩ := exists_linesOf_cons hc cs
      rw [h] at ih
      rw [hcons, ← ih]
      rcases rest with _ | ⟨next, rest⟩
      · rw [List.intercalate_singleton, List.intercalate_singleton]
      · rw [List.intercalate_cons_cons, List.intercalate_cons_cons, List.cons_append,
          List.cons_append]

namespace Refusal

/-- Wrong arguments give two; files that cannot be used give one. -/
def code : Refusal → Nat
  | missingPath => 2
  | noLibrary => 2
  | badLevel _ => 2
  | badConfig _ => 1
  | notOpened _ => 1

def lines : Refusal → List String
  | missingPath => ["--config needs a path"]
  | noLibrary => ["Usage: relay_to_stderr <libLiteCore.so> [level] [--config relay.toml]"]
  | badLevel fault => faultLines fault
  | badConfig fault => faultLines fault
  | notOpened fault => faultLines fault

def report (r : Refusal) : Report :=
  ⟨r.code, "", r.lines⟩

end Refusal

/-- Read arguments from the left: the configuration loaded last, and the positional arguments. -/
def readArguments (files : FileTree) :
    Config → List String → Except Refusal (Config × List String)
  | c, [] => .ok (c, [])
  | c, a :: rest =>
    if a = option then
      match rest with
      | [] => .error .missingPath
      | path :: rest =>
        match (Config.load files (Utf8.encode path)).1 with
        | .ok c => readArguments files c rest
        | .error fault => .error (.badConfig fault)
    else
      (readArguments files c rest).map fun (c, positional) => (c, a :: positional)

/-- Let the first positional argument override the library, and the second the level. -/
def override (c : Config) (positional : List String) : Except Refusal Config :=
  let c :=
    match positional with
    | library :: _ => c.choose (.library (Utf8.encode library))
    | [] => c
  match positional with
  | _ :: level :: _ =>
    match Level.parse level with
    | .ok l => .ok (c.choose (.minLevel l))
    | .error fault => .error (.badLevel fault)
  | _ => .ok c

def handles : Domains :=
  ⟨⟨16⟩, ⟨32⟩, ⟨48⟩, ⟨64⟩, ⟨80⟩⟩

/-- An event as it is shown, its severity filled up to five characters. -/
def eventLine (r : Record) : String :=
  let name := r.severity.name
  let padding := String.ofList (List.replicate (5 - name.length) ' ')
  "[" ++ name ++ padding ++ " " ++ r.target.name ++ "] " ++ r.text

/-- What is shown of a log: events alone. -/
def eventLines (records : List Record) : List String :=
  (records.filter fun r => r.target == .events).map eventLine

/-- Attach the log to a gateway at a level, and disconnect it when the input ends. -/
def attend (w : World) (g : Gateway) (level : Level) : Report :=
  let route : Route := ⟨g, .shared⟩
  let attached := w.attachLog route level
  match attached.answer with
  | .error fault => ⟨1, "", eventLines attached.records ++ faultLines fault⟩
  | .ok () =>
    let detached := attached.world.disconnect route .off
    let failure :=
      match detached.answer with
      | .ok () => []
      | .error fault => faultLines fault
    ⟨0, "Relaying LiteCore logs at " ++ level.display ++ " and above; press Enter to stop\n",
      eventLines attached.records ++ eventLines detached.records ++ failure⟩

def start (files : FileTree) (c : Config) : Except Refusal Report :=
  match c.library with
  | none => .error .noLibrary
  | some path =>
    match (files.openLibrary path).1 with
    | .error fault => .error (.notOpened fault)
    | .ok opened =>
      .ok (attend (World.initial.addOpened path opened handles) (opened.gateway path) c.minLevel)

def run (files : FileTree) (args : List String) : Report :=
  let result : Except Refusal Report := do
    let (c, positional) ← readArguments files .default args
    let c ← override c positional
    start files c
  match result with
  | .ok report => report
  | .error refusal => refusal.report

end Switchboard.Command
