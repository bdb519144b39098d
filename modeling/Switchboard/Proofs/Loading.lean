import Mathlib.Tactic.Common
import Switchboard.Proofs.RoundTrip

/-!
# Loading configurations

To load a configuration is to read a file and then its text. The file cannot be had for the reasons
that `FileTree.Withheld` lists, each with the words of the fault; a file that can be had holds a
text or none (`readText_eq_ok_iff`, `readText_eq_error`). From there on everything is as it is said
of the text alone: a text is only ever refused as a bad configuration (`parse_eq_error`), and what
is said of it is repeated behind the path.
-/

namespace Switchboard

namespace FileTree

variable {t : FileTree} {path : Bytes}

/-- Why the bytes of a file cannot be had. A path with a zero byte in it is not followed at all, and
what it leads to otherwise is up to the system, which does not read directories and may not let a
file be read. -/
inductive Withheld (t : FileTree) (path : Bytes) : String → Prop where
  | zeroByte (h : 0 ∈ path) : Withheld t path "file name contained an unexpected NUL byte"
  | unfollowed {e : OsError} (h : 0 ∉ path) (hf : t.follow path = .error e) :
    Withheld t path e.message
  | directory {p : Place} (h : 0 ∉ path) (hf : t.follow path = .ok (p, .directory)) :
    Withheld t path OsError.isADirectory.message
  | unreadable {p : Place} {e : OsError} (h : 0 ∉ path)
    (hf : t.follow path = .ok (p, .unreadable e)) : Withheld t path e.message

/-- A path leads to a file with this content. The content of a library is not known, but it is no
text. -/
def Holds (t : FileTree) (path content : Bytes) : Prop :=
  0 ∉ path ∧ ∃ p, t.follow path = .ok (p, .text content)

/-- A file whose content is known can be had. -/
theorem Holds.not_withheld {content : Bytes} {text : String} (h : t.Holds path content) :
    ¬ t.Withheld path text := by
  obtain ⟨hzero, p, hp⟩ := h
  rintro (hz | ⟨-, hf⟩ | ⟨-, hf⟩ | ⟨-, hf⟩)
  · exact hzero hz
  · cases hp.symm.trans hf
  · cases hp.symm.trans hf
  · cases hp.symm.trans hf

theorem readText_of_not_mem (h : 0 ∉ path) :
    t.readText path =
      match t.follow path with
      | .error e => .error (.io e.message)
      | .ok (_, .directory) => .error (.io OsError.isADirectory.message)
      | .ok (_, .unreadable reason) => .error (.io reason.message)
      | .ok (_, .library _) => .error (.io notTextText)
      | .ok (_, .text content) =>
        match Utf8.decode? content with
        | some s => .ok s
        | none => .error (.io notTextText) := by
  have hzero : ¬ path.contains 0 = true := by simpa using h
  exact if_neg hzero

theorem readText_of_holds {content : Bytes} (h : t.Holds path content) :
    t.readText path =
      match Utf8.decode? content with
      | some s => .ok s
      | none => .error (.io notTextText) := by
  obtain ⟨hzero, p, hp⟩ := h
  rw [readText_of_not_mem hzero, hp]

theorem readText_eq_ok_iff {s : String} :
    t.readText path = .ok s ↔ t.Holds path (Utf8.encode s) := by
  constructor
  · intro h
    by_cases hz : 0 ∈ path
    · rw [readText, if_pos (by simpa using hz)] at h
      cases h
    rw [readText_of_not_mem hz] at h
    split at h
    · cases h
    · cases h
    · cases h
    · cases h
    · rename_i p content hp
      split at h
      · rename_i s' hs
        obtain rfl := Except.ok.inj h
        exact ⟨hz, p, (Utf8.decode?_eq_some_iff.1 hs).symm ▸ hp⟩
      · cases h
  · intro h
    rw [readText_of_holds h, Utf8.decode?_eq_some_iff.2 rfl]

/-- Where no text is read, either the file cannot be had or there is none in it. -/
theorem readText_eq_error {fault : Fault} (h : t.readText path = .error fault) :
    ∃ text, fault = .io text ∧
      (t.Withheld path text ∨ (∀ text, ¬ t.Withheld path text) ∧ text = notTextText) := by
  by_cases hz : 0 ∈ path
  · rw [readText, if_pos (by simpa using hz)] at h
    exact ⟨_, (Except.error.inj h).symm, .inl (.zeroByte hz)⟩
  rw [readText_of_not_mem hz] at h
  split at h
  · rename_i e hf
    exact ⟨_, (Except.error.inj h).symm, .inl (.unfollowed hz hf)⟩
  · rename_i p hf
    exact ⟨_, (Except.error.inj h).symm, .inl (.directory hz hf)⟩
  · rename_i p reason hf
    exact ⟨_, (Except.error.inj h).symm, .inl (.unreadable hz hf)⟩
  · rename_i p image hf
    refine ⟨_, (Except.error.inj h).symm, .inr ⟨?_, rfl⟩⟩
    rintro text (hz' | ⟨-, hf'⟩ | ⟨-, hf'⟩ | ⟨-, hf'⟩)
    · exact hz hz'
    · cases hf.symm.trans hf'
    · cases hf.symm.trans hf'
    · cases hf.symm.trans hf'
  · rename_i p content hf
    split at h
    · cases h
    · exact ⟨_, (Except.error.inj h).symm,
        .inr ⟨fun text => Holds.not_withheld ⟨hz, p, hf⟩, rfl⟩⟩

theorem readText_of_withheld {text : String} (h : t.Withheld path text) :
    t.readText path = .error (.io text) := by
  rcases h with hz | ⟨hz, hf⟩ | ⟨hz, hf⟩ | ⟨hz, hf⟩
  · rw [readText, if_pos (by simpa using hz)]
    rfl
  · rw [readText_of_not_mem hz, hf]
  · rw [readText_of_not_mem hz, hf]
  · rw [readText_of_not_mem hz, hf]

theorem readText_eq_io_iff {text : String} :
    t.readText path = .error (.io text) ↔ t.Withheld path text ∨
      (∀ why, ¬ t.Withheld path why) ∧ (¬ ∃ s, t.Holds path (Utf8.encode s)) ∧
        text = notTextText := by
  constructor
  · intro h
    obtain ⟨why, hio, hw⟩ := readText_eq_error h
    obtain rfl := Fault.io.inj hio
    refine hw.imp id fun hn => ⟨hn.1, ?_, hn.2⟩
    rintro ⟨s, hs⟩
    cases h.symm.trans (readText_eq_ok_iff.2 hs)
  · rintro (hw | ⟨hw, hs, rfl⟩)
    · exact readText_of_withheld hw
    · rcases h : t.readText path with fault | s
      · obtain ⟨why, rfl, hwhy⟩ := readText_eq_error h
        rw [(hwhy.resolve_left (hw why)).2]
      · exact absurd ⟨s, readText_eq_ok_iff.1 h⟩ hs

/-- Either a text is read or none is. -/
theorem exists_readText_eq_io_iff :
    (∃ text, t.readText path = .error (.io text)) ↔ ¬ ∃ s, t.Holds path (Utf8.encode s) := by
  simp only [← readText_eq_ok_iff]
  rcases h : t.readText path with fault | s
  · obtain ⟨text, rfl, -⟩ := readText_eq_error h
    exact iff_of_true ⟨text, rfl⟩ nofun
  · exact iff_of_false nofun (not_not_intro ⟨s, rfl⟩)

end FileTree

namespace Config

variable {files : FileTree} {path : Bytes}

/-- A text is refused as a bad configuration, and for nothing else. -/
theorem parse_eq_error {text : String} {fault : Fault} (h : parse text = .error fault) :
    ∃ m, fault = .badConfig m := by
  unfold parse at h
  split at h
  · exact ⟨_, (Except.error.inj h).symm⟩
  · split at h
    · cases h
    · exact ⟨_, (Except.error.inj h).symm⟩

/-- What is said of a text in a file. -/
def filed (path : Bytes) (said : String) : String :=
  Path.display path ++ ": " ++ said

theorem load_of_readText_error {fault : Fault} (h : files.readText path = .error fault) :
    (load files path).1 = .error fault := by
  simp only [load, h, bind, Except.bind]

theorem load_of_parse {text : String} {c : Config} (h : files.readText path = .ok text)
    (hp : parse text = .ok c) : (load files path).1 = .ok c := by
  simp only [load, h, hp, bind, Except.bind]
  rfl

theorem load_of_parse_error {text said : String} (h : files.readText path = .ok text)
    (hp : parse text = .error (.badConfig said)) :
    (load files path).1 = .error (.badConfig (filed path said)) := by
  simp only [load, h, hp, bind, Except.bind]
  rfl

/-- What can come of loading: no text is read, or one that is refused, or one that is taken. -/
theorem load_cases (files : FileTree) (path : Bytes) :
    (∃ text, files.readText path = .error (.io text) ∧ (load files path).1 = .error (.io text)) ∨
      ∃ text, files.readText path = .ok text ∧
        ((∃ said, parse text = .error (.badConfig said) ∧
            (load files path).1 = .error (.badConfig (filed path said))) ∨
          ∃ c, parse text = .ok c ∧ (load files path).1 = .ok c) := by
  rcases h : files.readText path with fault | text
  · obtain ⟨text, rfl, -⟩ := FileTree.readText_eq_error h
    exact .inl ⟨text, rfl, load_of_readText_error h⟩
  · refine .inr ⟨text, rfl, ?_⟩
    rcases hp : parse text with fault | c
    · obtain ⟨said, rfl⟩ := parse_eq_error hp
      exact .inl ⟨said, rfl, load_of_parse_error h hp⟩
    · exact .inr ⟨c, rfl, load_of_parse h hp⟩

theorem load_eq_io_iff {text : String} :
    (load files path).1 = .error (.io text) ↔ files.readText path = .error (.io text) := by
  constructor
  · intro h
    obtain ⟨why, hr, hl⟩ | ⟨s, -, ⟨said, -, hl⟩ | ⟨c, -, hl⟩⟩ := load_cases files path
    · rw [← Fault.io.inj (Except.error.inj (hl.symm.trans h)), hr]
    · cases hl.symm.trans h
    · cases hl.symm.trans h
  · exact load_of_readText_error

/-- A configuration is loaded from a file if and only if its text is one, and it is the same one. A
text that is refused is refused in the same words, behind the path as it is shown. The only other
thing that can go wrong is that no text can be read: then it is said why the file cannot be had, or
that it is no text. In every case one record is made, which names the path between quotes, from
which its bytes can be read back. -/
theorem load_follows_parse (files : FileTree) (path : Bytes) :
    let result := (load files path).1
    (load files path).2 =
        [⟨.debug, .config, "Loading relay config from: " ++ Text.quoteBytes path⟩] ∧
      Text.unquote? (Text.quoteBytes path) = some path ∧
      ((∃ text, result = .error (.io text)) ↔
        ¬ ∃ content, files.Holds path content ∧ content.toByteArray.IsValidUTF8) ∧
      (∀ text, result = .error (.io text) ↔ files.Withheld path text ∨
        (∀ why, ¬ files.Withheld path why) ∧
          (¬ ∃ content, files.Holds path content ∧ content.toByteArray.IsValidUTF8) ∧
          text = "stream did not contain valid UTF-8") ∧
      (∀ content, files.Holds path content → content.toByteArray.IsValidUTF8 →
        ∃ text, Utf8.encode text = content ∧
          (∀ c, result = .ok c ↔ parse text = .ok c) ∧
          ∀ fault, parse text = .error fault → ∃ m said,
            fault = .badConfig m ∧ fault.message = "Failed to parse config: " ++ m ∧
              result = .error (.badConfig said) ∧ (Fault.badConfig said).message =
                "Failed to parse config: " ++ Utf8.lossy path ++ ": " ++ m) ∧
      ∀ fault, result = .error fault → (∃ text, fault = .io text) ∨ ∃ m, fault = .badConfig m := by
  intro result
  have hvalid : (∃ content, files.Holds path content ∧ content.toByteArray.IsValidUTF8) ↔
      ∃ s, files.Holds path (Utf8.encode s) := by
    simp only [Utf8.isValidUTF8_iff_exists_encode]
    constructor
    · rintro ⟨content, hc, s, rfl⟩
      exact ⟨s, hc⟩
    · rintro ⟨s, hs⟩
      exact ⟨_, hs, s, rfl⟩
  have hio : ∀ text, result = .error (.io text) ↔ files.readText path = .error (.io text) :=
    fun text => load_eq_io_iff
  simp only [hvalid, hio]
  have hread : Text.unquote? (Text.quoteBytes path) = some path := by
    rw [Text.unquote?_quoteBytes, Utf8.flatMap_bytes_pieces]
  refine ⟨rfl, hread, FileTree.exists_readText_eq_io_iff, fun text => FileTree.readText_eq_io_iff,
    fun content hc hv => ?_, fun fault hf => ?_⟩
  · obtain ⟨text, rfl⟩ := Utf8.isValidUTF8_iff_exists_encode.1 hv
    have hr := FileTree.readText_eq_ok_iff.2 hc
    refine ⟨text, rfl, ?_⟩
    obtain ⟨why, h, -⟩ | ⟨s, h, hs⟩ := load_cases files path
    · cases h.symm.trans hr
    obtain rfl := Except.ok.inj (h.symm.trans hr)
    obtain ⟨m, hp, hl⟩ | ⟨d, hp, hl⟩ := hs
    · rw [show result = _ from hl, hp]
      refine ⟨fun c => iff_of_false nofun nofun, fun fault hfault => ⟨m, filed path m, ?_⟩⟩
      obtain rfl := Except.error.inj hfault
      refine ⟨rfl, rfl, rfl, ?_⟩
      show "Failed to parse config: " ++ (Utf8.lossy path ++ ": " ++ m) = _
      simp only [String.append_assoc]
    · rw [show result = _ from hl, hp]
      exact ⟨fun c => Iff.rfl, nofun⟩
  · obtain ⟨why, -, hl⟩ | ⟨s, -, ⟨m, -, hl⟩ | ⟨c, -, hl⟩⟩ := load_cases files path
    · exact .inl ⟨why, Except.error.inj (hf.symm.trans hl)⟩
    · exact .inr ⟨_, Except.error.inj (hf.symm.trans hl)⟩
    · cases hf.symm.trans hl

/-- A file whose name is no text, in a directory below the root, with a level that is not known.
What is said of it spans lines, and all of them stand behind the name. Beside it there is nothing. -/
theorem load_refused_behind_path :
    let path : Bytes := Utf8.encode "/etc/" ++ [0xC3]
    let text := "min_level = 9\n"
    let files : FileTree := .add (.empty [Utf8.encode "home"]) path (.text (Utf8.encode text))
    let said := "TOML parse error at line 1, column 13\n  |\n1 | min_level = 9\n" ++
      "  |             ^\nInvalid log level: 9\n"
    files.Holds path (Utf8.encode text) ∧ (Utf8.encode text).toByteArray.IsValidUTF8 ∧
      parse text = .error (.badConfig said) ∧
      (load files path).2 =
        [⟨.debug, .config, "Loading relay config from: \"/etc/\\xC3\""⟩] ∧
      (∃ m, (load files path).1 = .error (.badConfig m) ∧
        (Fault.badConfig m).message = "Failed to parse config: /etc/\uFFFD: " ++ said) ∧
      (load files (Utf8.encode "/etc/none")).1 =
        .error (.io "No such file or directory (os error 2)") := by
  intro path text files said
  have hfollow : files.follow path = .ok ([Utf8.encode "etc", [0xC3]], .text (Utf8.encode text)) :=
    FileTree.follow_add (by decide) (by decide) (by decide) (by decide)
  have hholds : files.Holds path (Utf8.encode text) := ⟨by decide, _, hfollow⟩
  have hvalid := Utf8.isValidUTF8_encode text
  have hparse : parse text = .error (.badConfig said) := by decide +kernel
  have hshown : Utf8.lossy path = "/etc/\uFFFD" := by rfl
  have hquoted : Text.quoteBytes path = "\"/etc/\\xC3\"" := by decide +kernel
  obtain ⟨hrecord, -, -, -, h, -⟩ := load_follows_parse files path
  obtain ⟨text', htext, -, hrefused⟩ := h _ hholds hvalid
  obtain rfl := Utf8.encode_injective htext
  obtain ⟨m, said', hm, -, hresult, hmessage⟩ := hrefused _ hparse
  obtain rfl := Fault.badConfig.inj hm
  have hnone : files.Withheld (Utf8.encode "/etc/none") OsError.noSuchFile.message :=
    .unfollowed (by decide) (by rfl)
  obtain ⟨-, -, -, hio, -⟩ := load_follows_parse files (Utf8.encode "/etc/none")
  refine ⟨hholds, hvalid, hparse, ?_, ⟨said', hresult, ?_⟩, (hio _).2 (.inl hnone)⟩
  · rw [hrecord, hquoted]
    rfl
  · rw [hmessage, hshown]
    rfl

end Config

end Switchboard
