import Switchboard.Config.Reading
import Switchboard.Proofs.Encoding
import Switchboard.Proofs.Levels
import Switchboard.Proofs.Lines

/-!
# Written configurations are read back

A written configuration is a document of one or two lines, the level and then the library, if there
is one. The library is a string, which is read back as the path if the path is a text at all. The
level is a name where it has one, and the name is read back; where it has none it is a number, which
is understood and refused. So what can be written is read back just if the level is known.
-/

namespace Switchboard

/-! ### Levels -/

namespace Level

/-- The number of a level as it is written. -/
def digits (l : Level) : List Char :=
  (toString l.raw.toInt).toList

end Level

/-- A number is written as a word that is read as the number. -/
def Toml.IsNumeral (n : Int) : Prop :=
  (toString n).toList ≠ [] ∧ (toString n).toList.all isWordChar = true ∧
    isDate (toString n).toList = false ∧
    Scalar.ofWord? (toString n).toList = some (.integer n)

instance (n : Int) : Decidable (Toml.IsNumeral n) :=
  inferInstanceAs (Decidable ((toString n).toList ≠ [] ∧ _ = true ∧ _ = false ∧ _ = some _))

theorem Level.isNumeral (l : Level) : Toml.IsNumeral l.raw.toInt := by
  have hpos : ∀ m : Nat, m < 128 → Toml.IsNumeral m := by decide +kernel
  have hneg : ∀ m : Nat, m < 129 → Toml.IsNumeral (-m) := by decide +kernel
  have hl := l.raw.le_toInt
  have hh := l.raw.toInt_lt
  rcases Int.eq_nat_or_neg l.raw.toInt with ⟨m, hm | hm⟩
  · rw [hm]
    exact hpos m (by omega)
  · rw [hm]
    exact hneg m (by omega)

namespace Config

open Toml

/-! ### The written configuration -/

/-- What is said of a level that is read and is not known. -/
def unknownText (l : Level) : String :=
  "Invalid log level: " ++ toString l.raw.toInt

/-- The value of a level is read back as the level if the level is known, and is refused if it is
not. -/
theorem isScalar_writeLevel (l : Level) :
    ∃ x : Scalar, IsScalar (writeLevel l) x ∧
      ∀ span, readLevel (.scalar x span) =
        if l.isKnown then .ok l else .error (unknownText l) := by
  rcases hn : l.name? with _ | name
  · obtain ⟨hne, hw, hd, hx⟩ := l.isNumeral
    have hk := Level.name?_eq_none_iff.1 hn
    have hwrite : writeLevel l = l.digits := by
      simp only [writeLevel, hn]
      rfl
    have hx := isScalar_word hne (List.all_eq_true.1 hw) hd hx
    refine ⟨.integer l.raw.toInt, hwrite ▸ hx, fun span => ?_⟩
    simp only [readLevel, Item.toDatum, Scalar.toDatum, Level.ofDatum, Level.ofInt?_raw,
      Level.ofRaw, hk, Bool.false_eq_true, if_false]
    rfl
  · have hk : l.isKnown = true := by
      rw [← Bool.not_eq_false, ← Level.name?_eq_none_iff, hn]
      exact Option.some_ne_none name
    have hwrite : writeLevel l = writeString name.toList := by
      simp only [writeLevel, hn]
    refine ⟨.text name.toList, hwrite ▸ isScalar_writeString name.toList, fun span => ?_⟩
    simp only [readLevel, Item.toDatum, Scalar.toDatum, Level.ofDatum, String.ofList_toList,
      Level.parse_of_name? hn, hk, if_true]
    rfl

theorem isBare_levelKey : IsBare "min_level".toList :=
  ⟨by decide, List.all_eq_true.1 (by decide)⟩

theorem isBare_libraryKey : IsBare "library".toList :=
  ⟨by decide, List.all_eq_true.1 (by decide)⟩

/-- What is shown of a written configuration whose level is not known. -/
def unknownExcerpt (l : Level) : Excerpt :=
  ⟨0, "min_level = ".length, "min_level = ".toList ++ l.digits, l.digits.length⟩

/-- What is shown of it, in full, with the number of the level on the last line. -/
theorem render_unknownExcerpt (l : Level) :
    let n := toString l.raw.toInt
    (unknownExcerpt l).render (unknownText l) =
      "TOML parse error at line 1, column 13\n  |\n1 | min_level = " ++ n ++
        "\n  |             " ++ String.ofList (List.replicate n.length '^') ++
          "\nInvalid log level: " ++ n ++ "\n" := by
  intro n
  have habove : "TOML parse error at line 1, column 13\n  |\n1 | min_level = " =
      "TOML parse error at line " ++ toString (0 + 1) ++ ", column " ++
        toString ("min_level = ".length + 1) ++ "\n" ++
          String.ofList (List.replicate ((toString (0 + 1)).length + 1) ' ') ++ "|\n" ++
            toString (0 + 1) ++ " | " ++ "min_level = " := rfl
  have hbelow : "\n  |             " =
      "\n" ++ String.ofList (List.replicate ((toString (0 + 1)).length + 1) ' ') ++ "|" ++
        String.ofList (List.replicate ("min_level = ".length + 1) ' ') := rfl
  have hreason : "\nInvalid log level: " = "\n" ++ "Invalid log level: " := rfl
  rw [habove, hbelow, hreason]
  unfold unknownExcerpt Excerpt.render unknownText Level.digits
  simp only [n, String.ofList_append, String.ofList_toList, String.length_toList,
    String.append_assoc]

theorem excerpt_of_unknown {l : Level} (h : l.isKnown = false) (rest : List Char) :
    Excerpt.of (writeLine "min_level" (writeLevel l) ++ rest) (valueSpan (writeLevel l) rest) =
      unknownExcerpt l := by
  have hwrite : writeLevel l = l.digits := by
    simp only [writeLevel, Level.name?_eq_none_iff.2 h]
    rfl
  obtain ⟨hne, hw, -, -⟩ := l.isNumeral
  have hw := List.all_eq_true.1 hw
  have htext : writeLine "min_level" l.digits ++ rest =
      "min_level = ".toList ++ (l.digits ++ '\n' :: rest) := by
    have hopen : "min_level = ".toList = "min_level".toList ++ " = ".toList := rfl
    simp only [writeLine, hopen, List.append_assoc, List.singleton_append]
  have hkey : ("min_level = ".toList.all fun c => c.toNat < 0x80) = true := by decide
  have hascii : ∀ c ∈ "min_level = ".toList ++ l.digits, c.toNat < 0x80 := by
    intro c hc
    rcases List.mem_append.1 hc with hc | hc
    · exact of_decide_eq_true (List.all_eq_true.1 hkey c hc)
    · have hn := toNat_of_isWordChar (hw c hc)
      omega
  rw [hwrite, htext]
  exact excerpt_of_first_line (by decide) (fun hn => by cases hw _ hn) hne hascii rest

theorem readEntries_level {k : Key} {x : Scalar} {span : Span} {l : Level}
    (hk : k.name = levelKey)
    (hx : readLevel (.scalar x span) = if l.isKnown then .ok l else .error (unknownText l))
    (es : Table) :
    readEntries default ((k, .scalar x span) :: es) =
      if l.isKnown then readEntries ⟨l, none⟩ es else .error ⟨span, unknownText l⟩ := by
  simp only [readEntries, readEntry, if_pos hk, hx]
  by_cases h : l.isKnown = true
  · rw [if_pos h, if_pos h]
    rfl
  · rw [if_neg h, if_neg h]
    rfl

theorem readEntries_library {k : Key} (hk : k.name = libraryKey) (c : Config) (cs : List Char)
    (span : Span) :
    readEntries c [(k, .scalar (.text cs) span)] =
      .ok { c with library := some (Utf8.encodeChars cs) } := by
  have hne : k.name ≠ levelKey := by
    rw [hk]
    decide
  simp only [readEntries, readEntry, if_neg hne, if_pos hk, readPath]
  rfl

/-- A document that begins with the line of a level is read as its other lines say, if the level is
known, and is refused if it is not. -/
theorem parse_of_level {l : Level} {x : Scalar} {c : Config} (lines : List Line)
    (hx : IsScalar (writeLevel l) x)
    (hread : ∀ span, readLevel (.scalar x span) =
      if l.isKnown then .ok l else .error (unknownText l))
    (hlines : ∀ l ∈ lines, l.IsRead) (hkeys : (levelKey :: lines.map fun l => l.key.toList).Nodup)
    (hc : readEntries ⟨l, none⟩ (entriesOf lines) = .ok c) :
    parse (String.ofList (writeLine "min_level" (writeLevel l) ++ textOf lines)) =
      if l.isKnown then .ok c
      else .error (.badConfig ((unknownExcerpt l).render (unknownText l))) := by
  have ht := parse?_textOf
    (List.forall_mem_cons.2 ⟨⟨isBare_levelKey, hx⟩, hlines⟩ :
      ∀ l' ∈ ⟨"min_level", writeLevel l, x⟩ :: lines, l'.IsRead) hkeys
  have ht' : Toml.parse? (writeLine "min_level" (writeLevel l) ++ textOf lines) =
      some (entriesOf (⟨"min_level", writeLevel l, x⟩ :: lines)) := ht
  simp only [parse, String.toList_ofList, ht', ofTable, entriesOf, Line.entry]
  rw [readEntries_level rfl (hread _)]
  by_cases h : l.isKnown = true
  · simp only [h, if_true, hc]
  · have h' : l.isKnown = false := by simpa using h
    simp only [h', Bool.false_eq_true, if_false, excerpt_of_unknown h']

/-- A configuration that can be written is read back if its level is known. If it is not, it is
refused with an excerpt that shows the number of the level. -/
theorem parse_write {c : Config} {text : String} (h : c.write = .ok text) :
    parse text =
      if c.minLevel.isKnown then .ok c
      else .error (.badConfig ((unknownExcerpt c.minLevel).render (unknownText c.minLevel))) := by
  obtain ⟨l, library⟩ := c
  obtain ⟨x, hx, hread⟩ := isScalar_writeLevel l
  rcases library with _ | path
  · obtain rfl : String.ofList (writeLine "min_level" (writeLevel l)) = text := Except.ok.inj h
    have hkeys : [levelKey].Nodup := by decide
    have hp := parse_of_level [] hx hread nofun hkeys rfl
    rwa [textOf, List.flatMap_nil, List.append_nil] at hp
  · rcases hd : Utf8.decodeChars? path with _ | cs
    · simp only [write, hd] at h
      cases h
    · simp only [write, hd] at h
      obtain rfl := Except.ok.inj h
      have hlines : ∀ l ∈ [(⟨"library", writeString cs, .text cs⟩ : Line)], l.IsRead :=
        List.forall_mem_singleton.2 ⟨isBare_libraryKey, isScalar_writeString cs⟩
      have hkeys : [levelKey, libraryKey].Nodup := by decide
      have hc : readEntries ⟨l, none⟩ (entriesOf [⟨"library", writeString cs, .text cs⟩]) =
          .ok ⟨l, some path⟩ := by
        rw [← Utf8.decodeChars?_eq_some_iff.1 hd]
        simp only [entriesOf, Line.entry]
        exact readEntries_library rfl ⟨l, none⟩ cs _
      have hp := parse_of_level _ hx hread hlines hkeys hc
      rwa [textOf, List.flatMap_cons, List.flatMap_nil, List.append_nil] at hp

/-- A configuration that was written to a file is loaded from it if its level is known. -/
theorem load_of_write {c : Config} {text : String} {files : FileTree} {path : Bytes}
    (h : c.write = .ok text) (hk : c.minLevel.isKnown = true)
    (hr : files.readText path = .ok text) : (load files path).1 = .ok c := by
  have hp := parse_write h
  rw [if_pos hk] at hp
  simp only [load, hr, bind, Except.bind, hp]
  rfl

/-! ### Building -/

def Choice.level? : Choice → Option Level
  | .minLevel l => some l
  | .library _ => none

def Choice.path? : Choice → Option Bytes
  | .minLevel _ => none
  | .library path => some path

theorem foldl_choose_minLevel : ∀ (choices : List Choice) (c : Config),
    (choices.foldl choose c).minLevel = (choices.filterMap Choice.level?).getLast?.getD c.minLevel
  | [], _ => rfl
  | .minLevel l :: choices, c => by
    have hl : (Choice.minLevel l).level? = some l := rfl
    rw [List.foldl_cons, foldl_choose_minLevel choices, List.filterMap_cons_some hl,
      List.getLast?_cons]
    rfl
  | .library path :: choices, c => by
    rw [List.foldl_cons, foldl_choose_minLevel choices, List.filterMap_cons_none rfl]
    rfl

theorem foldl_choose_library : ∀ (choices : List Choice) (c : Config),
    (choices.foldl choose c).library = (choices.filterMap Choice.path?).getLast?.or c.library
  | [], _ => rfl
  | .minLevel l :: choices, c => by
    rw [List.foldl_cons, foldl_choose_library choices, List.filterMap_cons_none rfl]
    rfl
  | .library path :: choices, c => by
    have hp : (Choice.library path).path? = some path := rfl
    rw [List.foldl_cons, foldl_choose_library choices, List.filterMap_cons_some hp,
      List.getLast?_cons]
    rcases (choices.filterMap Choice.path?).getLast? with _ | p
    · rfl
    · rfl

theorem write_eq_error_iff {c : Config} :
    (∃ e, c.write = .error e) ↔
      ∃ path, c.library = some path ∧ ¬ path.toByteArray.IsValidUTF8 := by
  rcases hl : c.library with _ | path
  · simp [write, hl]
  · simp only [Option.some.injEq, exists_eq_left', ← Utf8.decodeChars?_eq_none_iff, write, hl]
    rcases Utf8.decodeChars? path with _ | cs
    · exact iff_of_true ⟨_, rfl⟩ rfl
    · exact iff_of_false (fun ⟨e, h⟩ => by cases h) nofun

/-- Whatever steps a configuration is built by, it holds the last level and the last library that
was set. It cannot be written if its library is no text. What is written otherwise is read back as the
same configuration if and only if the level is known, and else it is refused for the level. -/
theorem parse_write_build (choices : List Choice) :
    let c := build choices
    c.minLevel = (choices.filterMap Choice.level?).getLast?.getD .debug ∧
      c.library = (choices.filterMap Choice.path?).getLast? ∧
      ((∃ e, c.write = .error e) ↔
        ∃ path, c.library = some path ∧ ¬ path.toByteArray.IsValidUTF8) ∧
      ∀ text, c.write = .ok text →
        (parse text = .ok c ↔ c.minLevel.isKnown = true) ∧
          (c.minLevel.isKnown = false →
            let n := toString c.minLevel.raw.toInt
            parse text = .error (.badConfig
              ("TOML parse error at line 1, column 13\n  |\n1 | min_level = " ++ n ++
                "\n  |             " ++ String.ofList (List.replicate n.length '^') ++
                  "\nInvalid log level: " ++ n ++ "\n"))) := by
  intro c
  have hlibrary := foldl_choose_library choices default
  rw [show default.library = none from rfl, Option.or_none] at hlibrary
  refine ⟨foldl_choose_minLevel choices default, hlibrary, write_eq_error_iff, fun text h => ?_⟩
  have hp := parse_write h
  by_cases hk : c.minLevel.isKnown = true
  · rw [if_pos hk] at hp
    exact ⟨iff_of_true hp hk, fun hf => absurd hk (by rw [hf]; exact Bool.false_ne_true)⟩
  · rw [if_neg hk] at hp
    refine ⟨iff_of_false ?_ hk, fun _ => ?_⟩
    · rw [hp]
      exact nofun
    · rw [hp, render_unknownExcerpt]

/-- A path with both kinds of quotes, a backslash and line ends, and a level that was set anew. If
it is set once more, to a level that is not known, what is written is refused for it. -/
theorem parse_write_quotes :
    let path := Utf8.encode "a\"\"\"b\\'''\r\n\x00\""
    let choices : List Choice := [.minLevel ⟨99⟩, .library path, .minLevel .warning]
    let text := "min_level = \"warning\"\nlibrary = \"\"\"\na\"\"\\\"b\\\\'''\\r\n\\u0000\"\"\"\"\n"
    let choices' := choices ++ [.minLevel ⟨-100⟩]
    let text' := "min_level = -100\nlibrary = \"\"\"\na\"\"\\\"b\\\\'''\\r\n\\u0000\"\"\"\"\n"
    build choices = ⟨.warning, some path⟩ ∧ (build choices).write = .ok text ∧
      parse text = .ok (build choices) ∧
      build choices' = ⟨⟨-100⟩, some path⟩ ∧ (build choices').write = .ok text' ∧
      parse text' = .error (.badConfig ("TOML parse error at line 1, column 13\n  |\n" ++
        "1 | min_level = -100\n  |             ^^^^\nInvalid log level: -100\n")) := by
  intro path choices text choices' text'
  have hw : (build choices).write = .ok text := by rfl
  have hw' : (build choices').write = .ok text' := by decide +kernel
  obtain ⟨-, -, -, h⟩ := parse_write_build choices
  obtain ⟨-, -, -, h'⟩ := parse_write_build choices'
  have hnumber : toString (build choices').minLevel.raw.toInt = "-100" := by decide +kernel
  have hrefused := (h' text' hw').2 rfl
  rw [hnumber] at hrefused
  exact ⟨rfl, hw, (h text hw).1.2 rfl, rfl, hw', hrefused⟩

end Config

end Switchboard
