import Mathlib.Data.List.TakeWhile
import Switchboard.Config.Writing
import Switchboard.Proofs.Quoting
import Switchboard.Toml.Document
import Switchboard.Toml.Excerpt

/-!
# Lines of a document

A line with a bare key and a value is read as the assignment of the key to what is read of the value
(`Line.IsRead.statement`). A value that ends with its line is a written string, which is read back
whatever it holds, or a word. A document is read line by line, and lines whose keys differ make up
its table, in their order (`parse?_textOf`).

Where a value in the first line is refused, that line is shown with marks below the value
(`excerpt_of_first_line`).
-/

namespace Switchboard

namespace Toml

/-! ### Lines -/

section Lines

variable {name v : List Char}

/-- A key that needs no quotes. -/
def IsBare (name : List Char) : Prop :=
  name ≠ [] ∧ ∀ c ∈ name, isBareKeyChar c = true

theorem takeWhile_append_of_not {p : Char → Bool} {d : Char} (h : ∀ c ∈ name, p c = true)
    (hd : p d = false) (r : List Char) : (name ++ d :: r).takeWhile p = name := by
  rw [List.takeWhile_append_of_pos h, List.takeWhile_cons_of_neg (by simp [hd]), List.append_nil]

theorem dropWhile_append_of_not {p : Char → Bool} {d : Char} (h : ∀ c ∈ name, p c = true)
    (hd : p d = false) (r : List Char) : (name ++ d :: r).dropWhile p = d :: r := by
  rw [List.dropWhile_append_of_pos h, List.dropWhile_cons_of_neg (by simp [hd])]

theorem dropSpaces_cons {c : Char} (h : isSpace c = false) (r : List Char) :
    dropSpaces (c :: r) = c :: r :=
  List.dropWhile_cons_of_neg (by simp [h])

theorem lineEnd?_newline (r : List Char) : lineEnd? ('\n' :: r) = some r :=
  rfl

/-- What stands where a line does not end: neither blank nor a comment. -/
def IsToken (c : Char) : Prop :=
  isSpace c = false ∧ isPlain c = true ∧ c ≠ '#'

theorem lineEnd?_of_isToken {c : Char} (h : IsToken c) (r : List Char) :
    lineEnd? (c :: r) = none := by
  have hc : dropComment (c :: r) = c :: r := by
    unfold dropComment
    split
    · rename_i heq
      exact absurd (List.cons.inj heq).1 h.2.2
    · rfl
  rw [lineEnd?, dropSpaces_cons h.1, hc]
  exact newline?_of_isPlain h.2.1 r

/-! ### Keys -/

theorem toNat_of_isWordChar {c : Char} (h : isWordChar c = true) :
    0x20 < c.toNat ∧ c.toNat < 0x7F := by
  simp only [isWordChar, Bool.or_eq_true, beq_iff_eq] at h
  rcases h with ((((h | rfl) | rfl) | rfl) | rfl) | rfl
  · have h := Text.toNat_of_isAlphanum h
    omega
  all_goals decide

theorem isWordChar_of_isBareKeyChar {c : Char} (h : isBareKeyChar c = true) :
    isWordChar c = true := by
  simp only [isBareKeyChar, Bool.or_eq_true] at h
  rcases h with (h | h) | h
  · simp [isWordChar, h]
  · simp [isWordChar, h]
  · simp [isWordChar, h]

/-! ### Texts that begin with a word -/

section Words

variable {c : Char} (h : isWordChar c = true)

include h

theorem ne_of_isWordChar {d : Char} (hd : isWordChar d = false) : c ≠ d := by
  rintro rfl
  rw [h] at hd
  cases hd

theorem isToken_of_isWordChar : IsToken c := by
  have hn := toNat_of_isWordChar h
  refine ⟨?_, isPlain_of_not_isControl ?_, ne_of_isWordChar h (by decide)⟩
  · rw [isSpace, Bool.or_eq_false_iff]
    exact ⟨beq_false_of_ne (ne_of_isWordChar h (by decide)),
      beq_false_of_ne (ne_of_isWordChar h (by decide))⟩
  · rw [isControl, Bool.or_eq_false_iff]
    exact ⟨decide_eq_false (by omega), beq_false_of_ne (by omega)⟩

theorem dropMark_of_isWordChar (r : List Char) : dropMark (c :: r) = c :: r := by
  unfold dropMark
  split
  · rename_i heq
    exact absurd (List.cons.inj heq).1 (ne_of_isWordChar h (by decide))
  · rfl

theorem segmentName_of_isWordChar (r : List Char) :
    segmentName (c :: r) =
      if (c :: r).takeWhile isBareKeyChar = [] then none
      else some ((c :: r).takeWhile isBareKeyChar, (c :: r).dropWhile isBareKeyChar) := by
  unfold segmentName
  split
  · rename_i heq
    exact absurd (List.cons.inj heq).1 (ne_of_isWordChar h (by decide))
  · rename_i heq
    exact absurd (List.cons.inj heq).1 (ne_of_isWordChar h (by decide))
  · rfl

theorem statement_of_isWordChar (r : List Char) :
    statement (c :: r) =
      (assignment (value (depthLimit - 1)) (c :: r)).map fun (a, r) => (.assign a, r) := by
  unfold statement
  split
  · rename_i heq
    exact absurd (List.cons.inj heq).1 (ne_of_isWordChar h (by decide))
  · rename_i heq
    exact absurd (List.cons.inj heq).1 (ne_of_isWordChar h (by decide))
  · rfl

theorem scalar_of_isWordChar (r : List Char) : scalar (c :: r) = bareScalar (c :: r) := by
  unfold scalar
  split
  · rename_i heq
    exact absurd (List.cons.inj heq).1 (ne_of_isWordChar h (by decide))
  · rename_i heq
    exact absurd (List.cons.inj heq).1 (ne_of_isWordChar h (by decide))
  · rfl

end Words

theorem IsBare.exists_head (h : IsBare name) :
    ∃ c r, name = c :: r ∧ isWordChar c = true := by
  obtain ⟨c, r, hname⟩ := List.exists_cons_of_ne_nil h.1
  exact ⟨c, r, hname, isWordChar_of_isBareKeyChar (h.2 c (hname ▸ List.mem_cons_self))⟩

theorem segmentName_bare (h : IsBare name) {d : Char} (hd : isBareKeyChar d = false)
    (r : List Char) : segmentName (name ++ d :: r) = some (name, d :: r) := by
  have htake := takeWhile_append_of_not h.2 hd r
  have hdrop := dropWhile_append_of_not h.2 hd r
  obtain ⟨c, n, hname, hc⟩ := h.exists_head
  rw [hname, List.cons_append] at htake hdrop ⊢
  rw [segmentName_of_isWordChar hc, htake, hdrop, if_neg (List.cons_ne_nil c n)]

/-- Where a key stands that is followed by a space and an equals sign. -/
def keySpan (name r : List Char) : Span :=
  ⟨(name ++ ' ' :: '=' :: r).length, (' ' :: '=' :: r).length⟩

theorem keyPath_bare (h : IsBare name) (r : List Char) :
    keyPath (name ++ ' ' :: '=' :: r) = some ([⟨name, keySpan name r⟩], '=' :: r) := by
  have hs : dropSpaces (name ++ ' ' :: '=' :: r) = name ++ ' ' :: '=' :: r := by
    obtain ⟨c, n, rfl, hc⟩ := h.exists_head
    exact dropSpaces_cons (isToken_of_isWordChar hc).1 _
  have hseg : segment (name ++ ' ' :: '=' :: r) = some (⟨name, keySpan name r⟩, '=' :: r) := by
    rw [segment, hs, segmentName_bare h (by decide)]
    rfl
  have hlimit : depthLimit - 1 = depthLimit - 2 + 1 := rfl
  rw [keyPath, hlimit, keyPathOf, hseg]
  rfl

/-! ### Values -/

/-- Where a value stands that is followed by the end of its line. -/
def valueSpan (v rest : List Char) : Span :=
  ⟨(v ++ '\n' :: rest).length, ('\n' :: rest).length⟩

/-- A text that is read as a scalar at the end of a line. -/
structure IsScalar (v : List Char) (x : Scalar) : Prop where
  head : ∃ c r, v = c :: r ∧ isSpace c = false
  value : ∀ rest depth, value depth (v ++ '\n' :: rest) =
    some (.scalar x (valueSpan v rest), '\n' :: rest)

theorem IsScalar.dropSpaces {v : List Char} {x : Scalar} (h : IsScalar v x) (r : List Char) :
    dropSpaces (v ++ r) = v ++ r := by
  obtain ⟨c, t, rfl, hc⟩ := h.head
  exact dropSpaces_cons hc _

theorem scalarItem_eq {v rest : List Char} {x : Scalar}
    (h : scalar (v ++ '\n' :: rest) = some (x, '\n' :: rest)) :
    scalarItem (v ++ '\n' :: rest) = some (.scalar x (valueSpan v rest), '\n' :: rest) := by
  rw [scalarItem, h]
  rfl

theorem value_of_head_ne {c : Char} (hb : c ≠ '[') (hi : c ≠ '\x7b') (r : List Char) :
    ∀ depth, value depth (c :: r) = scalarItem (c :: r)
  | 0 => rfl
  | depth + 1 => by
    unfold value
    split
    · rename_i heq
      exact absurd (List.cons.inj heq).1 hb
    · rename_i heq
      exact absurd (List.cons.inj heq).1 hi
    · rfl

theorem writeString_head (s : List Char) :
    ∃ c r, writeString s = c :: r ∧ (c = '"' ∨ c = '\'') := by
  rw [writeString]
  cases Style.of s with
  | basic => exact ⟨_, _, rfl, .inl rfl⟩
  | literal => exact ⟨_, _, rfl, .inr rfl⟩
  | multilineBasic => exact ⟨_, _, rfl, .inl rfl⟩
  | multilineLiteral => exact ⟨_, _, rfl, .inr rfl⟩

theorem isScalar_writeString (s : List Char) : IsScalar (writeString s) (.text s) := by
  obtain ⟨c, r, hs, hc⟩ := writeString_head s
  refine ⟨⟨c, r, hs, ?_⟩, fun rest depth => ?_⟩
  · rcases hc with rfl | rfl
    · rfl
    · rfl
  · have hq : quotation (writeString s ++ '\n' :: rest) = some (s, '\n' :: rest) :=
      quotation_writeString s (by simp) (by simp)
    have hscalar : scalar (writeString s ++ '\n' :: rest) = some (.text s, '\n' :: rest) := by
      rw [hs, List.cons_append] at hq ⊢
      unfold scalar
      rcases hc with rfl | rfl
      · simp only [hq]
        rfl
      · simp only [hq]
        rfl
    rw [← scalarItem_eq hscalar, hs, List.cons_append]
    rcases hc with rfl | rfl
    · exact value_of_head_ne (by decide) (by decide) _ depth
    · exact value_of_head_ne (by decide) (by decide) _ depth

/-- A word that is read as a scalar and is no date may stand at the end of a line. -/
theorem isScalar_word {w : List Char} {x : Scalar} (hne : w ≠ [])
    (hw : ∀ c ∈ w, isWordChar c = true) (hd : isDate w = false)
    (hx : Scalar.ofWord? w = some x) : IsScalar w x := by
  obtain ⟨c, r, hcons⟩ := List.exists_cons_of_ne_nil hne
  have hc : isWordChar c = true := hw c (hcons ▸ List.mem_cons_self)
  refine ⟨⟨c, r, hcons, (isToken_of_isWordChar hc).1⟩, fun rest depth => ?_⟩
  have hword : word (w ++ '\n' :: rest) = w := takeWhile_append_of_not hw (by decide) rest
  have hafter : afterWord (w ++ '\n' :: rest) = '\n' :: rest :=
    dropWhile_append_of_not hw (by decide) rest
  have hscalar : scalar (w ++ '\n' :: rest) = some (x, '\n' :: rest) := by
    have hbare : bareScalar (w ++ '\n' :: rest) = some (x, '\n' :: rest) := by
      simp only [bareScalar, hword, hafter, hd, hx]
      rfl
    rw [hcons, List.cons_append] at hbare ⊢
    rw [scalar_of_isWordChar hc, hbare]
  rw [← scalarItem_eq hscalar, hcons, List.cons_append]
  exact value_of_head_ne (ne_of_isWordChar hc (by decide)) (ne_of_isWordChar hc (by decide)) _ depth

/-! ### Documents -/

/-- A key, a value, and the scalar that the value is read as. -/
structure Line where
  key : String
  value : List Char
  scalar : Scalar

namespace Line

structure IsRead (l : Line) : Prop where
  key : IsBare l.key.toList
  value : IsScalar l.value l.scalar

def text (l : Line) : List Char :=
  Config.writeLine l.key l.value

/-- The entry that a line makes before the rest of a document. -/
def entry (l : Line) (rest : List Char) : Key × Item :=
  (⟨l.key.toList, keySpan l.key.toList (' ' :: (l.value ++ '\n' :: rest))⟩,
    .scalar l.scalar (valueSpan l.value rest))

theorem text_append (l : Line) (rest : List Char) :
    l.text ++ rest = l.key.toList ++ ' ' :: '=' :: ' ' :: (l.value ++ '\n' :: rest) := by
  have h : " = ".toList = [' ', '=', ' '] := rfl
  simp [text, Config.writeLine, h]

variable {l : Line}

theorem IsRead.exists_head (h : l.IsRead) (rest : List Char) :
    ∃ c t, l.text ++ rest = c :: t ∧ isWordChar c = true := by
  obtain ⟨c, r, hkey, hc⟩ := h.key.exists_head
  rw [text_append, hkey]
  exact ⟨_, _, rfl, hc⟩

/-- A line is read as the assignment of its key to what is read of its value. -/
theorem IsRead.statement (h : l.IsRead) (rest : List Char) :
    statement (l.text ++ rest) =
      some (.assign ⟨[], (l.entry rest).1, (l.entry rest).2⟩, '\n' :: rest) := by
  have hassign : assignment (Toml.value (depthLimit - 1)) (l.text ++ rest) =
      some (⟨[], (l.entry rest).1, (l.entry rest).2⟩, '\n' :: rest) := by
    have hs : dropSpaces (' ' :: (l.value ++ '\n' :: rest)) = l.value ++ '\n' :: rest :=
      h.value.dropSpaces _
    simp only [text_append, assignment, keyPath_bare h.key, hs, h.value.value]
    rfl
  obtain ⟨c, t, ht, hc⟩ := h.exists_head rest
  rw [ht] at hassign ⊢
  rw [statement_of_isWordChar hc, hassign]
  rfl

theorem IsRead.statementsOf (h : l.IsRead) (n : Nat) (rest : List Char) :
    statementsOf (n + 1) (l.text ++ rest) =
      (Toml.statementsOf n rest).map (.assign ⟨[], (l.entry rest).1, (l.entry rest).2⟩ :: ·) := by
  have hst := h.statement rest
  obtain ⟨c, t, ht, hc⟩ := h.exists_head rest
  rw [ht] at hst ⊢
  rw [Toml.statementsOf, dropSpaces_cons (isToken_of_isWordChar hc).1]
  simp only [lineEnd?_of_isToken (isToken_of_isWordChar hc), hst, lineEnd?_newline]

end Line

def textOf (lines : List Line) : List Char :=
  lines.flatMap Line.text

/-- The entries that lines make. -/
def entriesOf : List Line → Table
  | [] => []
  | l :: lines => l.entry (textOf lines) :: entriesOf lines

def assignmentOf (e : Key × Item) : Statement :=
  .assign ⟨[], e.1, e.2⟩

theorem statementsOf_textOf : ∀ (lines : List Line) {n : Nat}, lines.length < n →
    (∀ l ∈ lines, l.IsRead) →
    statementsOf n (textOf lines) = some ((entriesOf lines).map assignmentOf)
  | [], n + 1, _, _ => rfl
  | l :: lines, n + 1, hn, h => by
    have ih := statementsOf_textOf lines (Nat.lt_of_succ_lt_succ hn)
      fun l' hl => h l' (List.mem_cons_of_mem _ hl)
    rw [textOf, List.flatMap_cons, (h l List.mem_cons_self).statementsOf, ← textOf, ih]
    rfl

theorem assign_scalar {root : Table} {key : Key} (x : Scalar) (span : Span)
    (h : Table.get? root key.name = none) :
    Draft.assign ⟨root, []⟩ ⟨[], key, .scalar x span⟩ =
      some ⟨root ++ [(key, .scalar x span)], []⟩ := by
  simp [Draft.assign, Draft.alter, Table.alter, Table.assign, h, Item.span?, Origin.extend]

theorem get?_append_of_ne {root : Table} {e : Key × Item} {name : List Char}
    (h : Table.get? root name = none) (hne : e.1.name ≠ name) :
    Table.get? (root ++ [e]) name = none := by
  simp only [Table.get?, Option.map_eq_none_iff, List.find?_append] at h ⊢
  simp [h, hne]

/-- Lines whose keys differ from each other and from those of a table are added to it. -/
theorem foldlM_add_entriesOf : ∀ (lines : List Line) {root : Table},
    (∀ l ∈ lines, Table.get? root l.key.toList = none) →
    (lines.map fun l => l.key.toList).Nodup →
    ((entriesOf lines).map assignmentOf).foldlM Draft.add ⟨root, []⟩ =
      some ⟨root ++ entriesOf lines, []⟩
  | [], root, _, _ => by rw [entriesOf, List.append_nil]; rfl
  | l :: lines, root, hroot, hkeys => by
    obtain ⟨hl, hkeys⟩ := List.nodup_cons.1 hkeys
    have hadd : Draft.add ⟨root, []⟩ (assignmentOf (l.entry (textOf lines))) =
        some ⟨root ++ [l.entry (textOf lines)], []⟩ :=
      assign_scalar l.scalar _ (hroot l List.mem_cons_self)
    have hroot' : ∀ l' ∈ lines,
        Table.get? (root ++ [l.entry (textOf lines)]) l'.key.toList = none := by
      intro l' hl'
      refine get?_append_of_ne (hroot l' (List.mem_cons_of_mem _ hl')) fun heq => hl ?_
      exact List.mem_map.2 ⟨l', hl', heq.symm⟩
    rw [entriesOf, List.map_cons, List.foldlM_cons, hadd]
    show List.foldlM Draft.add _ _ = _
    rw [foldlM_add_entriesOf lines hroot' hkeys, List.append_assoc]
    rfl

theorem length_le_length_textOf : ∀ {lines : List Line}, (∀ l ∈ lines, l.IsRead) →
    lines.length ≤ (textOf lines).length
  | [], _ => Nat.le_refl 0
  | l :: lines, h => by
    have ih := length_le_length_textOf fun l' hl => h l' (List.mem_cons_of_mem _ hl)
    obtain ⟨c, t, ht, -⟩ := (h l List.mem_cons_self).exists_head []
    rw [List.append_nil] at ht
    rw [textOf, List.flatMap_cons, ht, ← textOf, List.length_append, List.length_cons,
      List.length_cons]
    omega

/-- A document of lines with different keys is read as the entries that the lines make. -/
theorem parse?_textOf {lines : List Line} (h : ∀ l ∈ lines, l.IsRead)
    (hkeys : (lines.map fun l => l.key.toList).Nodup) :
    parse? (textOf lines) = some (entriesOf lines) := by
  have hmark : dropMark (textOf lines) = textOf lines := by
    rcases lines with _ | ⟨l, lines⟩
    · rfl
    · obtain ⟨c, t, ht, hc⟩ := (h l List.mem_cons_self).exists_head (textOf lines)
      show dropMark (l.text ++ textOf lines) = l.text ++ textOf lines
      rw [ht, dropMark_of_isWordChar hc]
  have hst : statements? (textOf lines) = some ((entriesOf lines).map assignmentOf) := by
    rw [statements?, hmark]
    exact statementsOf_textOf lines (Nat.lt_succ_of_le (length_le_length_textOf h)) h
  rw [parse?, hst, Option.bind_some, tableOfStatements?, Draft.empty,
    foldlM_add_entriesOf lines (fun _ _ => rfl) hkeys]
  rfl

end Lines

/-! ### Excerpts -/

theorem byteCount_of_ascii {cs : List Char} (h : ∀ c ∈ cs, c.toNat < 0x80) :
    Excerpt.byteCount cs = cs.length := by
  induction cs with
  | nil => rfl
  | cons c cs ih =>
    have hc : Utf8.encodeChar c = [UInt8.ofNat c.toNat] := by
      rw [Utf8.encodeChar, if_pos (h c List.mem_cons_self)]
    have ih := ih fun d hd => h d (List.mem_cons_of_mem _ hd)
    rw [Excerpt.byteCount, Utf8.encodeChars, List.flatMap_cons, hc, List.singleton_append,
      List.length_cons, List.length_cons]
    exact congrArg (· + 1) ih

/-- What is shown of a value in the first line of a text: the line, with marks below the value. -/
theorem excerpt_of_first_line {a v : List Char} (ha : '\n' ∉ a) (hv : '\n' ∉ v) (hne : v ≠ [])
    (hascii : ∀ c ∈ a ++ v, c.toNat < 0x80) (rest : List Char) :
    Excerpt.of (a ++ (v ++ '\n' :: rest)) (valueSpan v rest) =
      ⟨0, a.length, a ++ v, v.length⟩ := by
  have hstart : (a ++ (v ++ '\n' :: rest)).length - (v ++ '\n' :: rest).length = a.length := by
    rw [List.length_append, Nat.add_sub_cancel]
  have hwidth : (v ++ '\n' :: rest).length - ('\n' :: rest).length = v.length := by
    rw [List.length_append, Nat.add_sub_cancel]
  have hlast : Excerpt.lastLine a = a := by
    rw [Excerpt.lastLine, List.takeWhile_eq_self_iff.2, List.reverse_reverse]
    intro c hc
    have hne : c ≠ '\n' := fun h => ha (h ▸ List.mem_reverse.1 hc)
    simpa using hne
  have hline : (v ++ '\n' :: rest).takeWhile (· != '\n') = v := by
    refine takeWhile_append_of_not (fun c hc => ?_) rfl rest
    have hne : c ≠ '\n' := fun h => hv (h ▸ hc)
    simpa using hne
  have hvbytes := byteCount_of_ascii fun c hc => hascii c (List.mem_append_right a hc)
  have hbytes := byteCount_of_ascii hascii
  have hpos : 1 ≤ v.length := List.length_pos_iff.2 hne
  have hmarks : max 1 (min v.length ((a ++ v).length - a.length)) = v.length := by
    rw [List.length_append, Nat.add_sub_cancel_left]
    omega
  simp only [Excerpt.of, valueSpan, hstart, hwidth, List.take_left, List.drop_left, hlast, hline,
    hvbytes, hbytes, hmarks, List.count_eq_zero_of_not_mem ha]

end Toml

end Switchboard
