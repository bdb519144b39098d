import Mathlib.Data.List.Basic
import Mathlib.Tactic.Common
import Switchboard.Command
import Switchboard.Proofs.RoundTrip

/-!
# The order of arguments

An argument list is read from the left as a list of items: an option with its path, a positional
argument, or an option that is the last argument and has no path. What the command does is decided by
the options among them and by the positional arguments, each in their order (`run_eq`): the first
option that cannot be followed ends it, the last file that is loaded gives the configuration, and the
first two positional arguments override that. So it makes no difference where the positional
arguments stand between the options, which files are loaded before the last one, or what follows the
second positional argument.
-/

namespace Switchboard.Command

/-- What is read at once from an argument list. -/
inductive Item where
  /-- An option with its path. -/
  | file (path : String)
  | positional (text : String)
  /-- An option that is the last argument. -/
  | lone
  deriving DecidableEq, Repr

namespace Item

def arguments : Item → List String
  | file path => [option, path]
  | positional text => [text]
  | lone => [option]

/-- The positional argument that an item is. -/
def text? : Item → Option String
  | positional text => some text
  | file _ | lone => none

/-- Why the reading ends at an item, if it does. -/
def refusal? (files : FileTree) : Item → Option Refusal
  | file path =>
    match (Config.load files (Utf8.encode path)).1 with
    | .ok _ => none
    | .error fault => some (.badConfig fault)
  | positional _ => none
  | lone => some .missingPath

/-- The configuration that an item loads. -/
def config? (files : FileTree) : Item → Option Config
  | file path => (Config.load files (Utf8.encode path)).1.toOption
  | positional _ | lone => none

end Item

/-- The items of an argument list. -/
def items : List String → List Item
  | [] => []
  | a :: rest =>
    if a = option then
      match rest with
      | [] => [.lone]
      | path :: rest => .file path :: items rest
    else .positional a :: items rest

/-- The arguments that are read as these items. -/
def spell (its : List Item) : List String :=
  its.flatMap Item.arguments

/-- Items as they are read from an argument list: no positional argument is the option, and an option
without a path is the last item. -/
inductive Legible : List Item → Prop where
  | nil : Legible []
  | lone : Legible [.lone]
  | file (path : String) {its : List Item} (h : Legible its) : Legible (.file path :: its)
  | positional {text : String} (ht : text ≠ option) {its : List Item} (h : Legible its) :
    Legible (.positional text :: its)

/-- The options among the items. -/
def options (its : List Item) : List Item :=
  its.filter fun it => it.text?.isNone

/-- The positional arguments among the items. -/
def texts (its : List Item) : List String :=
  its.filterMap Item.text?

/-- The configuration in force once all files are loaded: the last one, or else the default. -/
def inForce (files : FileTree) (its : List Item) : Config :=
  (its.filterMap (Item.config? files)).getLast?.getD .default

/-- The items without the positional arguments after the first `n`. -/
def trim : Nat → List Item → List Item
  | _, [] => []
  | 0, .positional _ :: its => trim 0 its
  | n + 1, .positional text :: its => .positional text :: trim n its
  | n, .file path :: its => .file path :: trim n its
  | n, .lone :: its => .lone :: trim n its

/-! ### Reading and spelling -/

theorem items_cons_of_ne {a : String} (h : a ≠ option) (args : List String) :
    items (a :: args) = .positional a :: items args :=
  (items.eq_def (a :: args)).trans (if_neg h)

theorem items_option (path : String) (args : List String) :
    items (option :: path :: args) = .file path :: items args :=
  (items.eq_def (option :: path :: args)).trans (if_pos rfl)

theorem spell_items (args : List String) : spell (items args) = args := by
  fun_induction items args with
  | case1 => rfl
  | case2 => rfl
  | case3 path args ih => exact congrArg (option :: path :: ·) ih
  | case4 a args h ih => exact congrArg (a :: ·) ih

theorem legible_items (args : List String) : Legible (items args) := by
  fun_induction items args with
  | case1 => exact .nil
  | case2 => exact .lone
  | case3 path args ih => exact .file path ih
  | case4 a args h ih => exact .positional h ih

theorem items_spell {its : List Item} (h : Legible its) : items (spell its) = its := by
  induction h with
  | nil => rfl
  | lone => rfl
  | @file path its h ih =>
    rw [show spell (.file path :: its) = option :: path :: spell its from rfl, items_option, ih]
  | @positional text ht its h ih =>
    rw [show spell (.positional text :: its) = text :: spell its from rfl, items_cons_of_ne ht, ih]

/-- Leaving out an option with its path leaves items that can be read. -/
theorem Legible.delete {pre post : List Item} {path : String}
    (h : Legible (pre ++ .file path :: post)) : Legible (pre ++ post) := by
  induction pre with
  | nil =>
    cases h with
    | file _ h => exact h
  | cons it pre ih =>
    rw [List.cons_append] at h
    generalize hits : pre ++ Item.file path :: post = its at h ih
    cases h with
    | lone => simp at hits
    | file p h => exact .file p (ih h)
    | positional ht h => exact .positional ht (ih h)

theorem Legible.trim {its : List Item} (h : Legible its) (n : Nat) : Legible (trim n its) := by
  induction h generalizing n with
  | nil => cases n <;> exact .nil
  | lone => cases n <;> exact .lone
  | file path h ih => cases n <;> exact .file path (ih _)
  | positional ht h ih =>
    cases n with
    | zero => exact ih 0
    | succ n => exact .positional ht (ih n)

theorem options_trim (n : Nat) (its : List Item) : options (trim n its) = options its := by
  fun_induction Command.trim n its with
  | case1 => rfl
  | case2 text its ih => exact ih
  | case3 n text its ih => exact ih
  | case4 n path its ih => exact congrArg (Item.file path :: ·) ih
  | case5 n its ih => exact congrArg (Item.lone :: ·) ih

theorem texts_trim (n : Nat) (its : List Item) : texts (trim n its) = (texts its).take n := by
  fun_induction Command.trim n its with
  | case1 => rw [show texts [] = [] from rfl, List.take_nil]
  | case2 text its ih => exact ih
  | case3 n text its ih => exact congrArg (text :: ·) ih
  | case4 n path its ih => exact ih
  | case5 n its ih => exact ih

/-! ### What the items decide -/

section Items

variable (files : FileTree)

/-- What is not said of positional arguments is said of the options. -/
theorem filterMap_options {β : Type} {f : Item → Option β} (hf : ∀ text, f (.positional text) = none)
    (its : List Item) : (options its).filterMap f = its.filterMap f := by
  rw [options, List.filterMap_filter]
  refine List.filterMap_congr fun it _ => ?_
  cases it with
  | positional text => exact (hf text).symm
  | file | lone => rfl

theorem inForce_options (its : List Item) : inForce files (options its) = inForce files its := by
  rw [inForce, filterMap_options fun _ => rfl, inForce]

theorem findSome?_options (its : List Item) :
    (options its).findSome? (Item.refusal? files) = its.findSome? (Item.refusal? files) := by
  rw [← List.head?_filterMap, filterMap_options fun _ => rfl, List.head?_filterMap]

theorem Item.config?_eq_some_of_refusal? {path : String}
    (h : (Item.file path).refusal? files = none) :
    ∃ c, (Config.load files (Utf8.encode path)).1 = .ok c ∧
      (Item.file path).config? files = some c := by
  simp only [refusal?] at h
  split at h
  · rename_i c hc
    exact ⟨c, hc, by simp only [config?, hc]; rfl⟩
  · cases h

theorem readArguments_of_ne {a : String} (h : a ≠ option) (c : Config) (args : List String) :
    readArguments files c (a :: args) =
      (readArguments files c args).map fun (c, positional) => (c, a :: positional) :=
  (readArguments.eq_def files c (a :: args)).trans (if_neg h)

theorem readArguments_option (path : String) (c : Config) (args : List String) :
    readArguments files c (option :: path :: args) =
      match (Config.load files (Utf8.encode path)).1 with
      | .ok c => readArguments files c args
      | .error fault => .error (.badConfig fault) :=
  (readArguments.eq_def files c (option :: path :: args)).trans (if_pos rfl)

/-- Reading ends at the first item that it cannot follow. If there is none, the configuration loaded
last and the positional arguments are found. -/
theorem readArguments_eq (c : Config) (args : List String) :
    readArguments files c args =
      match (items args).findSome? (Item.refusal? files) with
      | some r => .error r
      | none => .ok (((items args).filterMap (Item.config? files)).getLast?.getD c,
          texts (items args)) := by
  fun_induction items args generalizing c with
  | case1 => rfl
  | case2 => rfl
  | case3 path args ih =>
    rw [readArguments_option]
    rcases hload : (Config.load files (Utf8.encode path)).1 with fault | c'
    · simp only [List.findSome?_cons, Item.refusal?, hload]
    · have hr : (Item.file path).refusal? files = none := by
        simp only [Item.refusal?, hload]
      have hc : (Item.file path).config? files = some c' := by
        simp only [Item.config?, hload]
        rfl
      simp only [List.findSome?_cons, hr, List.filterMap_cons_some hc, List.getLast?_cons,
        Option.getD_some, ih]
      rfl
  | case4 a args h ih =>
    rw [readArguments_of_ne files h, ih]
    have hr : (Item.positional a).refusal? files = none := rfl
    have hc : (Item.positional a).config? files = none := rfl
    simp only [List.findSome?_cons, hr, List.filterMap_cons_none hc]
    rcases (items args).findSome? (Item.refusal? files) with _ | r
    · rfl
    · rfl

/-- What is reported of an attempt to start. -/
def conclude : Except Refusal Report → Report
  | .ok report => report
  | .error refusal => refusal.report

/-- The command reports the first option that it cannot follow. If it can follow all of them, it
starts with the configuration in force, as the positional arguments override it. -/
theorem run_eq (args : List String) :
    run files args =
      match (items args).findSome? (Item.refusal? files) with
      | some r => r.report
      | none => conclude
          ((override (inForce files (items args)) (texts (items args))).bind (start files)) := by
  have hread := readArguments_eq files .default args
  unfold run
  split at hread
  · rename_i r hr
    rw [hread]
    rfl
  · rename_i hr
    rw [hread]
    rfl

end Items

/-! ### What the positional arguments override -/

/-- Only the first two positional arguments override. -/
theorem override_take (c : Config) (ts : List String) : override c (ts.take 2) = override c ts := by
  match ts with
  | [] => rfl
  | [_] => rfl
  | _ :: _ :: _ => rfl

/-- The level that is asked for: by the second positional argument, or by the configuration. -/
def levelAsked (c : Config) (ts : List String) : Except Fault Level :=
  (ts[1]?.map Level.parse).getD (.ok c.minLevel)

/-- The library that is asked for: by the first positional argument, or by the configuration. -/
def libraryAsked? (c : Config) (ts : List String) : Option Bytes :=
  (ts[0]?.map Utf8.encode).or c.library

theorem override_eq (c : Config) (ts : List String) :
    override c ts =
      match levelAsked c ts with
      | .error fault => .error (.badLevel fault)
      | .ok l => .ok ⟨l, libraryAsked? c ts⟩ := by
  match ts with
  | [] => rfl
  | [_] => rfl
  | library :: level :: more =>
    have hl : levelAsked c (library :: level :: more) = Level.parse level := rfl
    rw [hl]
    rcases hp : Level.parse level with fault | l
    · simp only [override, hp]
    · simp only [override, hp]
      rfl

/-! ### Rearranging -/

/-- What the command does is decided by the options and by the first two positional arguments. -/
theorem run_congr (files : FileTree) {args args' : List String}
    (ho : options (items args') = options (items args))
    (ht : (texts (items args')).take 2 = (texts (items args)).take 2) :
    run files args' = run files args := by
  rw [run_eq, run_eq, ← findSome?_options, ← inForce_options, ho, ← override_take, ht,
    findSome?_options, inForce_options, override_take]

/-- The configuration in force is loaded by the last file. -/
theorem inForce_append_of_file (files : FileTree) (pre : List Item) {post : List Item}
    (hpost : ∃ p, .file p ∈ post) (hr : post.findSome? (Item.refusal? files) = none) :
    inForce files (pre ++ post) = inForce files post := by
  obtain ⟨p, hp⟩ := hpost
  obtain ⟨c, -, hc⟩ := Item.config?_eq_some_of_refusal? files (List.findSome?_eq_none_iff.1 hr _ hp)
  have hne : post.filterMap (Item.config? files) ≠ [] :=
    List.ne_nil_of_mem (List.mem_filterMap.2 ⟨_, hp, hc⟩)
  rw [inForce, List.filterMap_append, List.getLast?_append_of_ne_nil _ hne, inForce]

/-- A file that loads makes no difference if another one is loaded after it. -/
theorem run_delete (files : FileTree) {pre post : List Item} {path : String} {c : Config}
    (hits : Legible (pre ++ .file path :: post))
    (hc : (Config.load files (Utf8.encode path)).1 = .ok c)
    (hpost : ∃ p, .file p ∈ post) :
    run files (spell (pre ++ post)) = run files (spell (pre ++ .file path :: post)) := by
  have hpath : (Item.file path).refusal? files = none := by
    simp only [Item.refusal?, hc]
  have hfind : (pre ++ .file path :: post).findSome? (Item.refusal? files) =
      (pre ++ post).findSome? (Item.refusal? files) := by
    simp only [List.findSome?_append, List.findSome?_cons, hpath]
  have htexts : texts (pre ++ .file path :: post) = texts (pre ++ post) := by
    simp only [texts, List.filterMap_append]
    rfl
  rw [run_eq, run_eq, items_spell hits, items_spell hits.delete, hfind, htexts]
  rcases hr : (pre ++ post).findSome? (Item.refusal? files) with _ | r
  · have hrpost : post.findSome? (Item.refusal? files) = none := by
      rw [List.findSome?_append, Option.or_eq_none_iff] at hr
      exact hr.2
    rw [inForce_append_of_file files pre hpost hrpost, List.append_cons,
      inForce_append_of_file files _ hpost hrpost]
  · rfl

/-- An argument list is read as items, and these spell it. Moving options past positional arguments
changes nothing as long as the options keep their order and the positional arguments theirs. Nor does
it to leave out a file that loads before another file, or the positional arguments after the second.
Where all files load, the first positional argument is the library that is opened, and the second one
the level, whatever the configuration in force says, and wherever they stand. -/
theorem run_of_rearranged (files : FileTree) (args : List String) :
    let its := items args
    (Legible its ∧ spell its = args) ∧
      (∀ args', options (items args') = options its → texts (items args') = texts its →
        run files args' = run files args) ∧
      (∀ pre path post c, its = pre ++ .file path :: post →
        (Config.load files (Utf8.encode path)).1 = .ok c → (∃ p, .file p ∈ post) →
          run files (spell (pre ++ post)) = run files args) ∧
      run files (spell (trim 2 its)) = run files args ∧
      (its.findSome? (Item.refusal? files) = none →
        (∀ library, texts its = [library] →
          run files args = conclude
            (start files ⟨(inForce files its).minLevel, some (Utf8.encode library)⟩)) ∧
        ∀ library level more l, texts its = library :: level :: more →
          Level.parse level = .ok l →
            run files args = conclude (start files ⟨l, some (Utf8.encode library)⟩)) := by
  intro its
  refine ⟨⟨legible_items args, spell_items args⟩, fun args' ho ht => ?_,
    fun pre path post c hits hc hpost => ?_, ?_, fun hr => ⟨fun library ht => ?_, ?_⟩⟩
  · exact run_congr files ho (congrArg _ ht)
  · have h : Legible its := legible_items args
    rw [hits] at h
    rw [run_delete files h hc hpost, ← hits, spell_items]
  · have htrim := items_spell ((legible_items args).trim 2)
    refine run_congr files ?_ ?_
    · rw [htrim, options_trim]
    · rw [htrim, texts_trim, List.take_take, Nat.min_self]
  · rw [run_eq, hr, ht]
    rfl
  · intro library level more l ht hl
    have hlevel : levelAsked (inForce files its) (texts its) = .ok l := by
      rw [ht]
      exact hl
    rw [run_eq, hr, override_eq, hlevel, ht]
    rfl

/-- Two files and three positional arguments, of which the first two count. -/
theorem run_of_rearranged_files :
    let files := (FileTree.stock.add (Utf8.encode "a.toml") (.text (Utf8.encode
      "min_level = \"info\"\nlibrary = \"./full.so\"\n"))).add (Utf8.encode "b.toml") (.text
        (Utf8.encode "min_level = \"warning\"\n"))
    let args := ["--config", "a.toml", "./chatty.so", "--config", "b.toml", "error", "x"]
    let moved := ["./chatty.so", "error", "--config", "a.toml", "x", "--config", "b.toml"]
    let post : List Item :=
      [.positional "./chatty.so", .file "b.toml", .positional "error", .positional "x"]
    options (items moved) = options (items args) ∧ texts (items moved) = texts (items args) ∧
      run files moved = run files args ∧
      items args = [] ++ .file "a.toml" :: post ∧
      (Config.load files (Utf8.encode "a.toml")).1 =
        .ok ⟨.info, some (Utf8.encode "./full.so")⟩ ∧
      (∃ p, .file p ∈ post) ∧
      run files ["./chatty.so", "--config", "b.toml", "error", "x"] = run files args ∧
      run files ["--config", "a.toml", "./chatty.so", "--config", "b.toml", "error"] =
        run files args ∧
      (items args).findSome? (Item.refusal? files) = none ∧
      Level.parse "error" = .ok .error ∧
      run files args = ⟨0, "Relaying LiteCore logs at error and above; press Enter to stop\n",
        ["[ERROR litecore] websock stub says %d", "[ERROR litecore] def <null>"]⟩ := by
  intro files args moved post
  have hwa : (⟨.info, some (Utf8.encode "./full.so")⟩ : Config).write =
      .ok "min_level = \"info\"\nlibrary = \"./full.so\"\n" := by rfl
  have hra : files.readText (Utf8.encode "a.toml") =
      .ok "min_level = \"info\"\nlibrary = \"./full.so\"\n" := by rfl
  have ha := Config.load_of_write hwa (by rfl) hra
  have hwb : (⟨.warning, none⟩ : Config).write = .ok "min_level = \"warning\"\n" := by rfl
  have hrb : files.readText (Utf8.encode "b.toml") = .ok "min_level = \"warning\"\n" := by rfl
  have hb := Config.load_of_write hwb (by rfl) hrb
  have hits : items args = [] ++ .file "a.toml" :: post := by rfl
  have hr : (items args).findSome? (Item.refusal? files) = none := by
    rw [hits]
    simp only [post, List.nil_append, List.findSome?_cons, List.findSome?_nil, Item.refusal?, ha,
      hb]
  have ho : options (items moved) = options (items args) := by rfl
  have ht : texts (items moved) = texts (items args) := by rfl
  have hl : Level.parse "error" = .ok .error := by rfl
  have hpost : ∃ p, Item.file p ∈ post := ⟨"b.toml", by simp [post]⟩
  have hless : spell ([] ++ post) = ["./chatty.so", "--config", "b.toml", "error", "x"] := by rfl
  have htwo : spell (trim 2 (items args)) =
      ["--config", "a.toml", "./chatty.so", "--config", "b.toml", "error"] := by rfl
  obtain ⟨-, hmove, hdelete, htrim, hoverride⟩ := run_of_rearranged files args
  refine ⟨ho, ht, hmove moved ho ht, hits, ha, hpost, ?_, ?_, hr, hl, ?_⟩
  · rw [← hless]
    exact hdelete [] "a.toml" post _ hits ha hpost
  · rw [← htwo]
    exact htrim
  · rw [(hoverride hr).2 "./chatty.so" "error" ["x"] .error (by rfl) hl]
    decide +kernel

end Switchboard.Command
