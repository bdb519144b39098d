import Mathlib.Tactic.Common
import Switchboard.Proofs.Data
import Switchboard.Proofs.Names
import Switchboard.Proofs.RoundTrip
import Switchboard.Proofs.Standing

/-!
# Which documents are configurations

Of a document two entries of its table matter, the level and the library, and of these only what
data they hold and which comes first (`mapError_reason_readEntries`). A document is a configuration
if each of the two is missing or can be read (`readEntries_eq_ok_iff`). Otherwise the one that is
reported is the first that cannot be read; since entries stand in the order in which they begin,
that is the one that begins first in the text (`readEntries_eq_error_iff`).
-/

namespace Switchboard

namespace Toml

theorem start_getD_span? (k : Key) (i : Item) :
    (i.span?.getD k.span).start = (Mark.of (k, i)).start := by
  rw [Mark.start, Mark.of, Item.start?]
  rcases i.span? with _ | span
  · rfl
  · rfl

end Toml

namespace Config

open Toml

/-! ### The two values -/

/-- The level that is asked for, by what stands under its key. -/
inductive SaysLevel (fallback : Level) : Option Item → Level → Prop
  | missing : SaysLevel fallback none fallback
  | name {s : List Char} {span : Span} {l : Level} (h : Level.parse (String.ofList s) = .ok l) :
    SaysLevel fallback (some (.scalar (.text s) span)) l
  | number {n : Int} {span : Span} {l : Level} (hl : 0 ≤ n) (hh : n ≤ 5) (h : l.raw.toInt = n) :
    SaysLevel fallback (some (.scalar (.integer n) span)) l

/-- The library that is named, by what stands under its key. -/
inductive SaysLibrary (fallback : Option Bytes) : Option Item → Option Bytes → Prop
  | missing : SaysLibrary fallback none fallback
  | path {s : List Char} {span : Span} :
    SaysLibrary fallback (some (.scalar (.text s) span)) (some (Utf8.encodeChars s))

/-- Why an item is no level. A number is not wrapped into eight bits, and one with a fraction is no
integer. -/
inductive NoLevel : Item → String → Prop
  | name {s : List Char} {span : Span} {f : Fault}
    (h : Level.parse (String.ofList s) = .error f) : NoLevel (.scalar (.text s) span) f.message
  | number {n : Int} {span : Span} (hl : -128 ≤ n) (hh : n ≤ 127) (h : n < 0 ∨ 5 < n) :
    NoLevel (.scalar (.integer n) span) ("Invalid log level: " ++ toString n)
  | far {n : Int} {span : Span} (h : n < -128 ∨ 127 < n) :
    NoLevel (.scalar (.integer n) span) "data did not match any variant of untagged enum Repr"
  | other {i : Item} (hs : ∀ s span, i ≠ .scalar (.text s) span)
    (hn : ∀ n span, i ≠ .scalar (.integer n) span) :
    NoLevel i "data did not match any variant of untagged enum Repr"

/-- An item that is no path: anything but a string. -/
def NoPath (i : Item) : Prop :=
  ∀ s span, i ≠ .scalar (.text s) span

/-- An item stands for a level if the datum that it holds does. -/
theorem standsFor_toDatum_iff {i : Item} {l : Level} (fallback : Level) :
    Level.StandsFor i.toDatum l ↔ SaysLevel fallback (some i) l := by
  constructor
  · intro h
    cases i with
    | scalar x span =>
      cases x with
      | text s => cases h with | name h => exact .name h
      | integer n => cases h with | number hl hh h => exact .number hl hh h
      | _ => cases h
    | _ => cases h
  · rintro (_ | h | ⟨hl, hh, h⟩)
    · exact .name h
    · exact .number hl hh h

theorem standsForNone_toDatum_iff {i : Item} {reason : String} :
    Level.StandsForNone i.toDatum reason ↔ NoLevel i reason := by
  constructor
  · intro h
    cases i with
    | scalar x span =>
      cases x with
      | text s =>
        cases h with
        | name h => exact .name h
        | other hs => exact absurd rfl (hs _)
      | integer n =>
        cases h with
        | number hl hh h => exact .number hl hh h
        | far h => exact .far h
        | other _ hn => exact absurd rfl (hn n)
      | _ =>
        cases h with | other => exact .other nofun nofun
    | _ =>
      cases h with | other => exact .other nofun nofun
  · intro h
    cases h with
    | name h => exact .name h
    | number hl hh h => exact .number hl hh h
    | far h => exact .far h
    | other hs hn =>
      cases i with
      | scalar x span =>
        cases x with
        | text s => exact absurd rfl (hs s span)
        | integer n => exact absurd rfl (hn n span)
        | _ => exact .other nofun nofun
      | _ => exact .other nofun nofun

theorem readLevel_eq_ok_iff {i : Item} {l : Level} (fallback : Level) :
    readLevel i = .ok l ↔ SaysLevel fallback (some i) l := by
  rw [readLevel, ← standsFor_toDatum_iff, ← Level.ofDatum_eq_ok_iff]
  exact ⟨eq_ok_of_mapError, fun h => by rw [h]; rfl⟩

theorem readLevel_eq_error_iff {i : Item} {reason : String} :
    readLevel i = .error reason ↔ NoLevel i reason := by
  rw [readLevel, ← standsForNone_toDatum_iff, ← Level.ofDatum_eq_error_iff]
  rcases Level.ofDatum i.toDatum with m | l
  · show Except.error m.message = Except.error reason ↔ _
    simp only [Except.error.injEq, exists_eq_left']
  · exact iff_of_false (by rintro ⟨⟩) (by rintro ⟨m, ⟨⟩, -⟩)

theorem readPath_of_noPath {i : Item} (h : NoPath i) : readPath i = .error (pathMismatch i) := by
  unfold readPath
  split
  · exact absurd rfl (h _ _)
  · rfl

theorem readPath_eq_ok_iff {i : Item} {library : Option Bytes} (fallback : Option Bytes) :
    (∃ path, readPath i = .ok path ∧ some path = library) ↔
      SaysLibrary fallback (some i) library := by
  constructor
  · rintro ⟨path, h, rfl⟩
    unfold readPath at h
    split at h
    · obtain rfl := Except.ok.inj h
      exact .path
    · cases h
  · rintro (_ | _)
    exact ⟨_, rfl, rfl⟩

theorem not_mem_toString_int (n : Int) : '\n' ∉ (toString n).toList := by
  intro h
  obtain hd | hd := Text.mem_toString_int h
  · exact absurd hd (by decide)
  · exact absurd hd (by decide)

/-- Why an item is no level is said on one line, since a name that is shown has no line ends. -/
theorem NoLevel.not_mem {i : Item} {reason : String} (h : NoLevel i reason) :
    '\n' ∉ reason.toList := by
  cases h with
  | name h =>
    have hmessage : ∀ shown : String, '\n' ∉ shown.toList →
        '\n' ∉ ("Invalid data: " ++ ("Unknown log level name: " ++ shown)).toList := by
      intro shown hshown
      rw [String.toList_append, String.toList_append, List.mem_append, List.mem_append, not_or,
        not_or]
      exact ⟨by decide, by decide, hshown⟩
    obtain ⟨-, rfl⟩ := Level.parse_eq_error_iff.1 h
    exact hmessage _ (Text.newline_not_mem_quote _)
  | number =>
    rw [String.toList_append, List.mem_append, not_or]
    exact ⟨by decide, not_mem_toString_int _⟩
  | far => decide
  | other => decide

/-- A level that is asked for is known. -/
theorem SaysLevel.isKnown {fallback l : Level} {i? : Option Item} (h : SaysLevel fallback i? l)
    (hf : fallback.isKnown = true) : l.isKnown = true := by
  cases h with
  | missing => exact hf
  | name h => exact Level.isKnown_of_parse h
  | number hl hh h => exact Level.isKnown_iff.2 ⟨h ▸ hl, h ▸ hh⟩

theorem saysLevel_none_iff {fallback l : Level} : SaysLevel fallback none l ↔ l = fallback :=
  ⟨fun h => by cases h; rfl, fun h => h ▸ .missing⟩

theorem saysLibrary_none_iff {fallback library : Option Bytes} :
    SaysLibrary fallback none library ↔ library = fallback :=
  ⟨fun h => by cases h; rfl, fun h => h ▸ .missing⟩

theorem readPath_eq_error_iff {i : Item} {reason : String} :
    readPath i = .error reason ↔ NoPath i ∧ reason = pathMismatch i := by
  constructor
  · intro h
    unfold readPath at h
    split at h
    · cases h
    · rename_i hs
      exact ⟨hs, (Except.error.inj h).symm⟩
  · rintro ⟨hn, rfl⟩
    exact readPath_of_noPath hn

/-! ### The table -/

section Entries

variable {c d : Config} {k : Key} {i : Item} {t : Table} {bad : BadValue}

theorem readEntry_of_level (hk : k.name = levelKey) :
    readEntry c (k, i) =
      match readLevel i with
      | .ok l => .ok (c.choose (.minLevel l))
      | .error reason => .error ⟨i.span?.getD k.span, reason⟩ :=
  if_pos hk

theorem readEntry_of_library (hk : k.name = libraryKey) :
    readEntry c (k, i) =
      match readPath i with
      | .ok path => .ok (c.choose (.library path))
      | .error reason => .error ⟨i.span?.getD k.span, reason⟩ := by
  have hne : k.name ≠ levelKey := by
    rw [hk]
    decide
  exact (if_neg hne).trans (if_pos hk)

theorem readEntry_of_other (hl : k.name ≠ levelKey) (hp : k.name ≠ libraryKey) :
    readEntry c (k, i) = .ok c := by
  simp only [readEntry, if_neg hl, if_neg hp]

/-- An entry that cannot be read, and what is reported of it. -/
inductive IsBad : Key × Item → BadValue → Prop
  | level {k : Key} {i : Item} {reason : String} (hk : k.name = levelKey) (h : NoLevel i reason) :
    IsBad (k, i) ⟨i.span?.getD k.span, reason⟩
  | library {k : Key} {i : Item} (hk : k.name = libraryKey) (h : NoPath i) :
    IsBad (k, i) ⟨i.span?.getD k.span, pathMismatch i⟩

theorem readEntry_eq_error_iff {e : Key × Item} : readEntry c e = .error bad ↔ IsBad e bad := by
  obtain ⟨k, i⟩ := e
  constructor
  · intro h
    by_cases hl : k.name = levelKey
    · rw [readEntry_of_level hl] at h
      split at h
      · cases h
      · rename_i reason hr
        obtain rfl := Except.error.inj h
        exact .level hl (readLevel_eq_error_iff.1 hr)
    · by_cases hp : k.name = libraryKey
      · rw [readEntry_of_library hp] at h
        split at h
        · cases h
        · rename_i reason hr
          obtain rfl := Except.error.inj h
          obtain ⟨hn, rfl⟩ := readPath_eq_error_iff.1 hr
          exact .library hp hn
      · rw [readEntry_of_other hl hp] at h
        cases h
  · intro h
    cases h with
    | level hk h => rw [readEntry_of_level hk, readLevel_eq_error_iff.2 h]
    | library hk h => rw [readEntry_of_library hk, readPath_of_noPath h]

theorem IsBad.unique {e : Key × Item} {bad' : BadValue} (h : IsBad e bad) (h' : IsBad e bad') :
    bad = bad' := by
  have h := readEntry_eq_error_iff (c := default).2 h
  exact Except.error.inj (h.symm.trans (readEntry_eq_error_iff.2 h'))

/-- What is reported of an entry is shown where the entry begins. -/
theorem IsBad.start_eq {e : Key × Item} (h : IsBad e bad) : bad.span.start = (Mark.of e).start := by
  cases h with
  | level => exact start_getD_span? ..
  | library => exact start_getD_span? ..

/-- A table is shown at its header or its braces, and at its key if it has neither. -/
theorem IsBad.span_eq_of_table {o : Origin} {entries : Table}
    (h : IsBad (k, .table o entries) bad) : bad.span = o.span?.getD k.span := by
  cases h with
  | level => rfl
  | library => rfl

/-- A table that the headers of tables below it had implied begins where its own header does, once
it is given one: it becomes the last of the entries, and it is shown at that header. -/
theorem reopened_begins_at_header {d : Draft} {span : Span}
    (h : d.root.get? k.name = some (.table .implied t)) :
    ∃ d', d.add (.openTable [] k span) = some d' ∧
      d'.root = d.root.erase k.name ++ [(k, .table (.header span) t)] ∧
      (Mark.of (k, .table (.header span) t)).start = span.start ∧
      ∀ bad, IsBad (k, .table (.header span) t) bad → bad.span = span := by
  refine ⟨⟨d.root.erase k.name ++ [(k, .table (.header span) t)], [k]⟩, ?_, rfl, rfl,
    fun bad => IsBad.span_eq_of_table⟩
  simp only [Draft.add, Draft.alter, Table.alter, Table.open?, h, Option.map_some, List.nil_append]

/-- The entry of a table that is reported: the first of those that cannot be read. -/
def IsFirstBad (t : Table) (bad : BadValue) : Prop :=
  (∃ e ∈ t, IsBad e bad) ∧
    ∀ e ∈ t, ∀ other, IsBad e other → other = bad ∨ other.span.start < bad.span.start

theorem IsFirstBad.unique {bad' : BadValue} (h : IsFirstBad t bad) (h' : IsFirstBad t bad') :
    bad = bad' := by
  obtain ⟨⟨e, he, hbad⟩, hfirst⟩ := h
  obtain ⟨⟨e', he', hbad'⟩, hfirst'⟩ := h'
  obtain rfl | hlt := hfirst e' he' bad' hbad'
  · rfl
  · obtain rfl | hlt' := hfirst' e he bad hbad
    · rfl
    · omega

/-- Reading stops at the first entry that cannot be read. -/
theorem isFirstBad_of_readEntries : ∀ (t : Table) {c : Config}, Ordered t.marks →
    readEntries c t = .error bad → IsFirstBad t bad
  | [], _, _, h => nomatch h
  | e :: es, c, ho, h => by
    rw [readEntries] at h
    split at h
    · rename_i c' he
      obtain ⟨⟨e', he', hbad⟩, hfirst⟩ := isFirstBad_of_readEntries es ho.tail h
      refine ⟨⟨e', List.mem_cons_of_mem e he', hbad⟩, List.forall_mem_cons.2 ⟨?_, hfirst⟩⟩
      intro other hother
      rw [readEntry_eq_error_iff.2 hother] at he
      cases he
    · rename_i bad' he
      obtain rfl := Except.error.inj h
      have hbad := readEntry_eq_error_iff.1 he
      refine ⟨⟨e, List.mem_cons_self, hbad⟩, List.forall_mem_cons.2 ⟨?_, fun e' he' => ?_⟩⟩
      · exact fun other hother => .inl (hother.unique hbad)
      · intro other hother
        rw [hother.start_eq, hbad.start_eq]
        exact .inr ((List.pairwise_cons.1 ho.starts).1 _ (List.mem_map_of_mem he'))

theorem not_isBad_of_readEntries : ∀ (t : Table) {c : Config}, readEntries c t = .ok d →
    ∀ e ∈ t, ¬ IsBad e bad
  | [], _, _ => nofun
  | e :: es, c, h => by
    rw [readEntries] at h
    split at h
    · rename_i c' he
      refine List.forall_mem_cons.2 ⟨fun hbad => ?_, not_isBad_of_readEntries es h⟩
      rw [readEntry_eq_error_iff.2 hbad] at he
      cases he
    · cases h

theorem readEntries_eq_error_iff (ho : Ordered t.marks) :
    readEntries c t = .error bad ↔ IsFirstBad t bad := by
  constructor
  · exact isFirstBad_of_readEntries t ho
  · intro hfirst
    rcases hr : readEntries c t with bad' | d
    · rw [(isFirstBad_of_readEntries t ho hr).unique hfirst]
    · obtain ⟨⟨e, he, hbad⟩, -⟩ := hfirst
      exact absurd hbad (not_isBad_of_readEntries t hr e he)

theorem saysLevel_some_iff {fallback l l' : Level} (h : readLevel i = .ok l) :
    SaysLevel fallback (some i) l' ↔ l' = l := by
  rw [← readLevel_eq_ok_iff, h, Except.ok.injEq, eq_comm]

theorem saysLibrary_some_iff {fallback library : Option Bytes} {path : Bytes}
    (h : readPath i = .ok path) : SaysLibrary fallback (some i) library ↔ library = some path := by
  rw [← readPath_eq_ok_iff, h]
  simp only [Except.ok.injEq, exists_eq_left', eq_comm]

/-- A table can be read if both values can, of which a missing one changes nothing. -/
theorem readEntries_eq_ok_iff : ∀ (t : Table) {c : Config}, Ordered t.marks →
    (readEntries c t = .ok d ↔ SaysLevel c.minLevel (t.get? levelKey) d.minLevel ∧
      SaysLibrary c.library (t.get? libraryKey) d.library)
  | [], c, _ => by
    show Except.ok c = Except.ok d ↔ SaysLevel _ none _ ∧ SaysLibrary _ none _
    rw [saysLevel_none_iff, saysLibrary_none_iff, Except.ok.injEq]
    refine ⟨fun h => h ▸ ⟨rfl, rfl⟩, ?_⟩
    rintro ⟨hl, hp⟩
    cases c; cases d; cases hl; cases hp; rfl
  | (k, i) :: es, c, ho => by
    have ih := fun c' => readEntries_eq_ok_iff es (c := c') ho.tail
    -- Keys differ, so the rest of the table does not say again what is said here.
    have hnext : Table.get? es k.name = none := by
      rw [Table.get?_eq_none_iff]
      intro m hm heq
      have hmem : k.name ∈ (Table.marks es).map Mark.name := heq ▸ List.mem_map_of_mem hm
      exact (List.nodup_cons.1 ho.names).1 hmem
    have hne : levelKey ≠ libraryKey := by decide
    by_cases hl : k.name = levelKey
    · have hp : k.name ≠ libraryKey := hl ▸ hne
      rw [readEntries, readEntry_of_level hl, Table.get?_cons_of_eq hl, Table.get?_cons_of_ne hp]
      rcases hr : readLevel i with reason | l
      · refine iff_of_false (by rintro ⟨⟩) fun h => ?_
        rw [(readLevel_eq_ok_iff _).2 h.1] at hr
        cases hr
      · show readEntries _ es = .ok d ↔ _
        rw [ih, ← hl, hnext, saysLevel_none_iff, saysLevel_some_iff hr]
        rfl
    · by_cases hp : k.name = libraryKey
      · rw [readEntries, readEntry_of_library hp, Table.get?_cons_of_ne hl,
          Table.get?_cons_of_eq hp]
        rcases hr : readPath i with reason | path
        · refine iff_of_false (by rintro ⟨⟩) fun h => ?_
          obtain ⟨path, hpath, -⟩ := (readPath_eq_ok_iff _).2 h.2
          cases hpath.symm.trans hr
        · show readEntries _ es = .ok d ↔ _
          rw [ih, ← hp, hnext, saysLibrary_none_iff, saysLibrary_some_iff hr]
          rfl
      · rw [readEntries, readEntry_of_other hl hp, Table.get?_cons_of_ne hl,
          Table.get?_cons_of_ne hp]
        exact ih c

end Entries

/-! ### Data -/

/-- What is said where something stands that is no path. -/
def expectedPath (what : String) : String :=
  "invalid type: " ++ what ++ ", expected path string"

/-- A path is read from a text, and from no other datum. -/
def pathOfDatum : Datum → Except String Bytes
  | .text s => .ok (Utf8.encode s)
  | .integer n => .error (expectedPath ("integer `" ++ toString n ++ "`"))
  | .real x => .error (expectedPath ("floating point `" ++ x.text ++ "`"))
  | .boolean b => .error (expectedPath ("boolean `" ++ (if b then "true" else "false") ++ "`"))
  | .list _ => .error (expectedPath "sequence")
  | .record _ | .null => .error (expectedPath "map")

theorem readPath_eq (i : Item) : readPath i = pathOfDatum i.toDatum := by
  cases i with
  | scalar x span =>
    cases x with
    | text s =>
      show Except.ok (Utf8.encodeChars s) = Except.ok (Utf8.encodeChars (String.ofList s).toList)
      rw [String.toList_ofList]
    | _ => rfl
  | _ => rfl

/-- The entries of a table that matter, as data. -/
def heeded (t : Table) : List (List Char × Datum) :=
  (t.filter fun e => e.1.name = levelKey ∨ e.1.name = libraryKey).map
    fun e => (e.1.name, e.2.toDatum)

/-- Take one of these entries into a configuration. -/
def readDatum (c : Config) : List Char × Datum → Except String Config
  | (name, d) =>
    if name = levelKey then
      match Level.ofDatum d with
      | .ok l => .ok (c.choose (.minLevel l))
      | .error m => .error m.message
    else
      match pathOfDatum d with
      | .ok path => .ok (c.choose (.library path))
      | .error reason => .error reason

def readData : Config → List (List Char × Datum) → Except String Config
  | c, [] => .ok c
  | c, d :: ds =>
    match readDatum c d with
    | .ok c => readData c ds
    | .error reason => .error reason

theorem mapError_readEntry {c : Config} {k : Key} {i : Item}
    (hk : k.name = levelKey ∨ k.name = libraryKey) :
    (readEntry c (k, i)).mapError BadValue.reason = readDatum c (k.name, i.toDatum) := by
  by_cases hl : k.name = levelKey
  · rw [readEntry_of_level hl, readDatum, if_pos hl, readLevel]
    rcases Level.ofDatum i.toDatum with m | l
    · rfl
    · rfl
  · rw [readEntry_of_library (hk.resolve_left hl), readDatum, if_neg hl, readPath_eq]
    rcases pathOfDatum i.toDatum with reason | path
    · rfl
    · rfl

/-- What is made of a table is made of the data that matter in it, up to where these stand. -/
theorem mapError_reason_readEntries : ∀ (t : Table) (c : Config),
    (readEntries c t).mapError BadValue.reason = readData c (heeded t)
  | [], c => rfl
  | (k, i) :: es, c => by
    have ih := mapError_reason_readEntries es
    by_cases hk : k.name = levelKey ∨ k.name = libraryKey
    · have hcons : heeded ((k, i) :: es) = (k.name, i.toDatum) :: heeded es := by
        rw [heeded, List.filter_cons_of_pos (by simpa using hk)]
        rfl
      rw [hcons, readEntries, readData, ← mapError_readEntry hk]
      rcases readEntry c (k, i) with bad | c'
      · rfl
      · exact ih c'
    · have hcons : heeded ((k, i) :: es) = heeded es := by
        rw [heeded, List.filter_cons_of_neg (by simpa using hk)]
        rfl
      rw [not_or] at hk
      rw [hcons, readEntries, readEntry_of_other hk.1 hk.2]
      exact ih c

/-! ### Documents -/

/-- What is said of a value that cannot be read, where the text shows it. -/
def complaint (text : String) (bad : BadValue) : Fault :=
  .badConfig ((Excerpt.of text.toList bad.span).render bad.reason)

/-- It ends in the reason. -/
theorem exists_message_complaint_eq (text : String) (bad : BadValue) :
    ∃ shown, (complaint text bad).message =
      "Failed to parse config: " ++ (shown ++ "\n" ++ bad.reason ++ "\n") := by
  obtain ⟨shown, hshown⟩ := (Excerpt.of text.toList bad.span).exists_render_eq bad.reason
  exact ⟨shown, congrArg ("Failed to parse config: " ++ ·) hshown⟩

section Documents

variable {text : String} {t : Table} (h : Toml.parse? text.toList = some t)

include h

theorem parse_eq_ok_iff {c : Config} : parse text = .ok c ↔ readEntries default t = .ok c := by
  simp only [parse, h, ofTable]
  rcases readEntries default t with bad | d
  · exact iff_of_false (by rintro ⟨⟩) (by rintro ⟨⟩)
  · rw [Except.ok.injEq]
    exact Iff.of_eq (Except.ok.injEq d c).symm

theorem parse_eq_error_iff {fault : Fault} :
    parse text = .error fault ↔
      ∃ bad, readEntries default t = .error bad ∧ fault = complaint text bad := by
  simp only [parse, h, ofTable]
  rcases readEntries default t with bad | d
  · simp only [Except.error.injEq, exists_eq_left', complaint, eq_comm]
  · refine iff_of_false (by rintro ⟨⟩) ?_
    rintro ⟨bad, hbad, -⟩
    cases hbad

/-- A document is a configuration or not by what its table holds under two keys, and by which of
these comes first. Each key stands there once. The document is a configuration if the level is
missing, a name or the number of a known level, and the library is missing or a string; the
configuration holds these, and a known level in any case. Otherwise what is reported is what begins
first of those that cannot be read (`reopened_begins_at_header` says where a table begins that is
named by several headers). The reason stands on the last line, and of a level it is what reading the
level as a datum says. -/
theorem document_decides_config :
    (∀ k i, (k, i) ∈ t → t.get? k.name = some i) ∧
      (∀ c, parse text = .ok c ↔ SaysLevel .debug (t.get? levelKey) c.minLevel ∧
        SaysLibrary none (t.get? libraryKey) c.library) ∧
      (∀ c, parse text = .ok c → c.minLevel.isKnown = true) ∧
      (∀ fault, parse text = .error fault ↔
        ∃ bad, IsFirstBad t bad ∧ fault = complaint text bad ∧ ∃ shown,
          fault.message = "Failed to parse config: " ++ (shown ++ "\n" ++ bad.reason ++ "\n")) ∧
      (∀ i reason, NoLevel i reason ↔
        ∃ m, Level.ofDatum i.toDatum = .error m ∧ m.message = reason ∧ '\n' ∉ reason.toList) ∧
      ∀ (other : String) (u : Table), Toml.parse? other.toList = some u → heeded u = heeded t →
        (∃ c, parse text = .ok c ∧ parse other = .ok c) ∨
          ∃ bad bad', bad.reason = bad'.reason ∧ parse text = .error (complaint text bad) ∧
            parse other = .error (complaint other bad') := by
  have ho := ordered_of_parse? h
  have hok : ∀ c, parse text = .ok c ↔ SaysLevel .debug (t.get? levelKey) c.minLevel ∧
      SaysLibrary none (t.get? libraryKey) c.library :=
    fun c => (parse_eq_ok_iff h).trans (readEntries_eq_ok_iff t ho)
  refine ⟨fun k i hi => Table.get?_of_mem ho hi, hok, fun c hc => ((hok c).1 hc).1.isKnown rfl,
    fun fault => ?_, fun i reason => ?_, fun other u hu heq => ?_⟩
  · rw [parse_eq_error_iff h]
    simp only [readEntries_eq_error_iff ho]
    refine exists_congr fun bad => and_congr_right fun _ => ⟨?_, And.left⟩
    rintro rfl
    exact ⟨rfl, exists_message_complaint_eq text bad⟩
  · constructor
    · intro hno
      obtain ⟨m, hm, hmessage⟩ := Level.ofDatum_eq_error_iff.2 (standsForNone_toDatum_iff.2 hno)
      exact ⟨m, hm, hmessage, hno.not_mem⟩
    · rintro ⟨m, hm, hmessage, -⟩
      exact standsForNone_toDatum_iff.1 (Level.ofDatum_eq_error_iff.1 ⟨m, hm, hmessage⟩)
  · have hdata := (mapError_reason_readEntries t default).trans
      ((heq ▸ mapError_reason_readEntries u default).symm)
    rcases ht : readEntries default t with bad | c
    · rcases hu' : readEntries default u with bad' | d
      · rw [ht, hu'] at hdata
        exact .inr ⟨bad, bad', Except.error.inj hdata, (parse_eq_error_iff h).2 ⟨bad, ht, rfl⟩,
          (parse_eq_error_iff hu).2 ⟨bad', hu', rfl⟩⟩
      · rw [ht, hu'] at hdata
        cases hdata
    · rcases hu' : readEntries default u with bad' | d
      · rw [ht, hu'] at hdata
        cases hdata
      · rw [ht, hu'] at hdata
        obtain rfl := Except.ok.inj hdata
        exact .inl ⟨c, (parse_eq_ok_iff h).2 ht, (parse_eq_ok_iff hu).2 hu'⟩

end Documents

/-- Of two bad values the first is reported: the library before a number that would be that of a
level if it were wrapped into eight bits, and a name that is none before the library. A level that
is a table begins behind the library if its own header does, although a table below it came
before. -/
theorem document_is_refused_for_first_bad_value :
    let number := "extra = 1\nlibrary = 7\nmin_level = 258\n"
    let name := "min_level = \"loud\"\nlibrary = 7\n"
    let reopened := "[min_level.x]\n[library]\n[min_level]\n"
    (∃ t, Toml.parse? number.toList = some t ∧
        IsFirstBad t ⟨⟨18, 17⟩, "invalid type: integer `7`, expected path string"⟩) ∧
      parse number = .error (.badConfig ("TOML parse error at line 2, column 11\n  |\n" ++
        "2 | library = 7\n  |           ^\ninvalid type: integer `7`, expected path string\n")) ∧
      parse name = .error (.badConfig ("TOML parse error at line 1, column 13\n  |\n" ++
        "1 | min_level = \"loud\"\n  |             ^^^^^^\n" ++
        "Invalid data: Unknown log level name: \"loud\"\n")) ∧
      parse reopened = .error (.badConfig ("TOML parse error at line 2, column 1\n  |\n" ++
        "2 | [library]\n  | ^^^^^^^^^\ninvalid type: map, expected path string\n")) := by
  intro number name reopened
  -- What is reported is what reading the entries in their order stops at.
  have hsaid : ∀ {text : String} {bad : BadValue},
      (Toml.parse? text.toList).map (readEntries default) = some (.error bad) →
        (∃ t, Toml.parse? text.toList = some t ∧ IsFirstBad t bad) ∧
          parse text = .error (complaint text bad) := by
    intro text bad hread
    obtain ⟨t, ht, hr⟩ := Option.map_eq_some_iff.1 hread
    have hfirst := (readEntries_eq_error_iff (ordered_of_parse? ht)).1 hr
    obtain ⟨-, -, -, herror, -⟩ := document_decides_config ht
    exact ⟨⟨t, ht, hfirst⟩, (herror _).2 ⟨bad, hfirst, rfl, exists_message_complaint_eq text bad⟩⟩
  have hnumber : (Toml.parse? number.toList).map (readEntries default) =
      some (.error ⟨⟨18, 17⟩, "invalid type: integer `7`, expected path string"⟩) := by
    decide +kernel
  have hname : (Toml.parse? name.toList).map (readEntries default) =
      some (.error ⟨⟨19, 13⟩, "Invalid data: Unknown log level name: \"loud\""⟩) := by
    decide +kernel
  have hreopened : (Toml.parse? reopened.toList).map (readEntries default) =
      some (.error ⟨⟨22, 13⟩, "invalid type: map, expected path string"⟩) := by
    decide +kernel
  refine ⟨(hsaid hnumber).1, (hsaid hnumber).2.trans (congrArg Except.error ?_),
    (hsaid hname).2.trans (congrArg Except.error ?_),
    (hsaid hreopened).2.trans (congrArg Except.error ?_)⟩
  · decide +kernel
  · decide +kernel
  · decide +kernel

end Config

end Switchboard
