import Switchboard.Text.Invisible
import Switchboard.Text.Utf8

/-!
# Quoted text

A text is quoted between double quotes so that it can be read off a line: quotes and backslashes
are escaped, and so is every character that cannot be seen (`isInvisible_eq_false_of_mem_quote`). In
a quoted byte string each byte of an ill-formed stretch is written in hexadecimal.

Nothing is lost by it: `unquote?` reads the text back, character by character, and finds the bytes
that were quoted (`unquote?_quote`, `unquote?_quoteBytes`). What carries this is that the form of a
character is read without regard to what was read before it, and leaves the reader among characters.
-/

namespace Switchboard.Text

def hexDigit (n : Nat) : Char :=
  if n < 10 then Char.ofNat (0x30 + n) else Char.ofNat (0x41 + (n - 10))

def hex (n : Nat) : List Char :=
  Nat.toDigits 16 n

def hexByte (b : UInt8) : List Char :=
  [hexDigit (b.toNat / 16), hexDigit (b.toNat % 16)]

def quoteChar (c : Char) : List Char :=
  if c = '\x00' then ['\\', '0']
  else if c = '\t' then ['\\', 't']
  else if c = '\n' then ['\\', 'n']
  else if c = '\r' then ['\\', 'r']
  else if c = '"' ∨ c = '\\' then ['\\', c]
  else if isInvisible c then ['\\', 'u', '\x7b'] ++ hex c.toNat ++ ['\x7d']
  else [c]

def quote (s : String) : String :=
  String.ofList ('"' :: s.toList.flatMap quoteChar ++ ['"'])

def quotePiece : Utf8.Piece → List Char
  | .char c => quoteChar c
  | .broken bytes => bytes.flatMap fun b => '\\' :: 'x' :: hexByte b

def quoteBytes (bs : Bytes) : String :=
  String.ofList ('"' :: (Utf8.pieces bs).flatMap quotePiece ++ ['"'])

/-- The characters that are escaped by a letter or a mark, and what stands behind the backslash. -/
def marked : List (Char × Char) :=
  [('\x00', '0'), ('\t', 't'), ('\n', 'n'), ('\r', 'r'), ('"', '"'), ('\\', '\\')]

/-- A character that is quoted as it is. -/
def Unescaped (c : Char) : Prop :=
  isInvisible c = false ∧ c ≠ '"' ∧ c ≠ '\\'

theorem quoteChar_cases (c : Char) :
    (∃ e, (c, e) ∈ marked ∧ quoteChar c = ['\\', e]) ∨
      (isInvisible c = true ∧
        quoteChar c = ['\\', 'u', '\x7b'] ++ hex c.toNat ++ ['\x7d']) ∨
      (Unescaped c ∧ quoteChar c = [c]) := by
  by_cases hm : c ∈ marked.map Prod.fst
  · obtain ⟨p, hp, rfl⟩ := List.mem_map.1 hm
    have hforms : ∀ p ∈ marked, quoteChar p.1 = ['\\', p.2] := by decide
    exact .inl ⟨p.2, hp, hforms p hp⟩
  · simp only [marked, List.map_cons, List.map_nil, List.mem_cons, List.not_mem_nil, or_false,
      not_or] at hm
    obtain ⟨hzero, htab, hfeed, hreturn, hquote, hback⟩ := hm
    rw [quoteChar, if_neg hzero, if_neg htab, if_neg hfeed, if_neg hreturn,
      if_neg (not_or.2 ⟨hquote, hback⟩)]
    by_cases hi : isInvisible c = true
    · exact .inr (.inl ⟨hi, if_pos hi⟩)
    · exact .inr (.inr ⟨⟨Bool.eq_false_iff.2 hi, hquote, hback⟩, if_neg hi⟩)

theorem Unescaped.of_ascii {c : Char} (hl : 0x23 ≤ c.toNat) (hh : c.toNat < 0x7F) (hb : c ≠ '\\') :
    Unescaped c := by
  refine ⟨isInvisible_eq_false (by omega) hh, ?_, hb⟩
  rintro rfl
  exact absurd hl (by decide)

theorem toNat_of_isAlphanum {c : Char} (h : c.isAlphanum = true) :
    0x30 ≤ c.toNat ∧ c.toNat < 0x7B := by
  delta Char.isAlphanum Char.isAlpha Char.isUpper Char.isLower Char.isDigit at h
  simp only [Bool.or_eq_true, Bool.and_eq_true, decide_eq_true_eq, UInt32.le_iff_toNat_le] at h
  show 0x30 ≤ c.val.toNat ∧ c.val.toNat < 0x7B
  rcases h with (⟨hl, hh⟩ | ⟨hl, hh⟩) | ⟨hl, hh⟩
  · exact ⟨Nat.le_trans (by decide) hl, Nat.lt_of_le_of_lt hh (by decide)⟩
  · exact ⟨Nat.le_trans (by decide) hl, Nat.lt_of_le_of_lt hh (by decide)⟩
  · exact ⟨Nat.le_trans (by decide) hl, Nat.lt_of_le_of_lt hh (by decide)⟩

theorem Unescaped.of_isAlphanum {c : Char} (h : c.isAlphanum = true) : Unescaped c := by
  obtain ⟨hl, hh⟩ := toNat_of_isAlphanum h
  refine .of_ascii (by omega) (by omega) ?_
  rintro rfl
  exact absurd h (by decide)

theorem Unescaped.quoteChar_eq {c : Char} (h : Unescaped c) : quoteChar c = [c] := by
  obtain ⟨hvisible, hquote, hback⟩ := h
  obtain ⟨e, hmem, -⟩ | ⟨hinvisible, -⟩ | ⟨-, hform⟩ := quoteChar_cases c
  · have hmarked : ∀ p ∈ marked, isInvisible p.1 = true ∨ p.1 = '"' ∨ p.1 = '\\' := by decide
    obtain hinvisible | hmark := hmarked (c, e) hmem
    · exact absurd (hvisible.symm.trans hinvisible) Bool.false_ne_true
    · exact absurd hmark (not_or.2 ⟨hquote, hback⟩)
  · exact absurd (hvisible.symm.trans hinvisible) Bool.false_ne_true
  · exact hform

/-- A text of which nothing is escaped only gets its quotes. -/
theorem quote_of_unescaped {s : String} (h : ∀ c ∈ s.toList, Unescaped c) :
    quote s = "\"" ++ s ++ "\"" := by
  have hbody : s.toList.flatMap quoteChar = s.toList := by
    rw [List.flatMap_def, List.map_congr_left fun c hc => (h c hc).quoteChar_eq,
      ← List.flatMap_def, List.flatMap_singleton']
  refine String.toList_injective ?_
  rw [quote, hbody, String.toList_ofList, String.toList_append, String.toList_append]
  rfl

/-! ### Reading it back -/

/-- What the next character of a quoted text is part of: the text itself, an escape of which only
the backslash was read, a code point before its braces or within them, or a byte, of which half may
have been read. -/
inductive Within where
  | text
  | escape
  | braces
  | code (n : Nat)
  | byte
  | halfByte (high : Nat)
  deriving DecidableEq, Repr

/-- The value of a hexadecimal digit, the letters counting from `ten` on. -/
def digitValue? (ten c : Char) : Option Nat :=
  if 0x30 ≤ c.toNat ∧ c.toNat ≤ 0x39 then some (c.toNat - 0x30)
  else if ten.toNat ≤ c.toNat ∧ c.toNat < ten.toNat + 6 then some (c.toNat - ten.toNat + 10)
  else none

/-- Read one character between the quotes, behind the bytes that were read so far. The digits of
code points are small letters, those of bytes are capitals. -/
def unquoteStep : Bytes × Within → Char → Option (Bytes × Within)
  | (read, .text), c =>
    if c = '"' then none
    else if c = '\\' then some (read, .escape)
    else some (read ++ Utf8.encodeChar c, .text)
  | (read, .escape), c =>
    match c with
    | '0' => some (read ++ [0x00], .text)
    | 't' => some (read ++ [0x09], .text)
    | 'n' => some (read ++ [0x0A], .text)
    | 'r' => some (read ++ [0x0D], .text)
    | '"' => some (read ++ [0x22], .text)
    | '\\' => some (read ++ [0x5C], .text)
    | 'u' => some (read, .braces)
    | 'x' => some (read, .byte)
    | _ => none
  | (read, .braces), c => if c = '\x7b' then some (read, .code 0) else none
  | (read, .code n), c =>
    if c = '\x7d' then some (read ++ Utf8.encodeChar (Char.ofNat n), .text)
    else (digitValue? 'a' c).map fun d => (read, .code (n * 16 + d))
  | (read, .byte), c => (digitValue? 'A' c).map fun d => (read, .halfByte d)
  | (read, .halfByte high), c =>
    (digitValue? 'A' c).map fun d => (read ++ [UInt8.ofNat (high * 16 + d)], .text)

def unquoteBody? (body : List Char) : Option Bytes :=
  match body.foldlM unquoteStep ([], .text) with
  | some (read, .text) => some read
  | _ => none

/-- The bytes that a quoted text was made from. -/
def unquote? (shown : String) : Option Bytes :=
  match shown.toList with
  | '"' :: r => if r.getLast? = some '"' then unquoteBody? r.dropLast else none
  | _ => none

theorem unquote?_ofList (body : List Char) :
    unquote? (String.ofList ('"' :: body ++ ['"'])) = unquoteBody? body := by
  simp only [unquote?, String.toList_ofList, List.cons_append, List.getLast?_concat, if_true,
    List.dropLast_concat]

/-- A form stands for some bytes if a reader among characters gets them from it. -/
def StandsFor (shown : List Char) (bytes : Bytes) : Prop :=
  ∀ read, shown.foldlM unquoteStep (read, .text) = some (read ++ bytes, .text)

theorem standsFor_flatMap {α : Type} {shown : α → List Char} {bytes : α → Bytes} : ∀ (l : List α),
    (∀ a ∈ l, StandsFor (shown a) (bytes a)) → StandsFor (l.flatMap shown) (l.flatMap bytes)
  | [], _, read => by
    rw [List.flatMap_nil, List.flatMap_nil, List.append_nil]
    rfl
  | a :: l, h, read => by
    have hl := standsFor_flatMap l fun b hb => h b (List.mem_cons_of_mem a hb)
    rw [List.flatMap_cons, List.flatMap_cons, List.foldlM_append, h a List.mem_cons_self,
      ← List.append_assoc]
    exact hl (read ++ bytes a)

theorem unquoteBody?_of_standsFor {body : List Char} {bytes : Bytes} (h : StandsFor body bytes) :
    unquoteBody? body = some bytes := by
  rw [unquoteBody?, h []]
  rfl

theorem digitValue?_digitChar :
    ∀ d < 16, digitValue? 'a' d.digitChar = some d ∧ d.digitChar ≠ '\x7d' := by
  decide

theorem digitValue?_hexDigit : ∀ d < 16, digitValue? 'A' (hexDigit d) = some d := by
  decide

theorem unquoteStep_code (read : Bytes) (n : Nat) {d : Nat} (h : d < 16) :
    unquoteStep (read, .code n) d.digitChar = some (read, .code (n * 16 + d)) := by
  obtain ⟨hvalue, hne⟩ := digitValue?_digitChar d h
  simp only [unquoteStep, if_neg hne, hvalue, Option.map_some]

/-- The last digit comes off the end. -/
theorem foldlM_hex (read : Bytes) (n : Nat) :
    (hex n).foldlM unquoteStep (read, .code 0) = some (read, .code n) := by
  induction n using Nat.strongRecOn with
  | ind n ih =>
    rw [hex, Nat.toDigits_eq_if (by decide)]
    split
    · rename_i h
      have hstep := unquoteStep_code read 0 h
      rw [Nat.zero_mul, Nat.zero_add] at hstep
      rw [List.foldlM_cons, hstep]
      rfl
    · rename_i h
      have hstep := unquoteStep_code read (n / 16) (Nat.mod_lt n (by decide))
      rw [Nat.div_add_mod'] at hstep
      have hinit := ih (n / 16) (by omega)
      rw [hex] at hinit
      rw [List.foldlM_append, hinit]
      show [(n % 16).digitChar].foldlM unquoteStep (read, .code (n / 16)) = _
      rw [List.foldlM_cons, hstep]
      rfl

theorem standsFor_quoteChar (c : Char) : StandsFor (quoteChar c) (Utf8.encodeChar c) := by
  obtain ⟨e, hmem, hform⟩ | ⟨-, hform⟩ | ⟨⟨-, hquote, hback⟩, hform⟩ := quoteChar_cases c
  · rw [hform]
    have hmarked : ∀ p ∈ marked, StandsFor ['\\', p.2] (Utf8.encodeChar p.1) := by
      simp only [marked, List.forall_mem_cons, List.not_mem_nil, false_imp_iff, implies_true]
      exact ⟨fun _ => rfl, fun _ => rfl, fun _ => rfl, fun _ => rfl, fun _ => rfl, fun _ => rfl,
        trivial⟩
    exact hmarked (c, e) hmem
  · intro read
    rw [hform, List.append_assoc, List.foldlM_append]
    show (hex c.toNat ++ ['\x7d']).foldlM unquoteStep (read, .code 0) = _
    rw [List.foldlM_append, foldlM_hex]
    show some (read ++ Utf8.encodeChar (Char.ofNat c.toNat), Within.text) = _
    rw [Char.ofNat_toNat]
  · intro read
    rw [hform]
    simp only [List.foldlM_cons, List.foldlM_nil, unquoteStep, if_neg hquote, if_neg hback]
    rfl

theorem standsFor_byte (b : UInt8) : StandsFor ('\\' :: 'x' :: hexByte b) [b] := by
  intro read
  have hb := b.toNat_lt
  have hhigh := digitValue?_hexDigit (b.toNat / 16) (by omega)
  have hlow := digitValue?_hexDigit (b.toNat % 16) (by omega)
  have hvalue : UInt8.ofNat (b.toNat / 16 * 16 + b.toNat % 16) = b := by
    rw [Nat.div_add_mod', UInt8.ofNat_toNat]
  show (hexByte b).foldlM unquoteStep (read, .byte) = _
  simp only [hexByte, List.foldlM_cons, List.foldlM_nil, unquoteStep, hhigh, hlow, Option.map_some,
    hvalue, bind, Option.bind, pure]

theorem standsFor_quotePiece : ∀ p : Utf8.Piece, StandsFor (quotePiece p) p.bytes
  | .char c => standsFor_quoteChar c
  | .broken bytes => by
    have h := standsFor_flatMap bytes fun b _ => standsFor_byte b
    rwa [List.flatMap_singleton'] at h

/-- A quoted text is read back. -/
theorem unquote?_quote (s : String) : unquote? (quote s) = some (Utf8.encode s) := by
  rw [quote, unquote?_ofList]
  exact unquoteBody?_of_standsFor (standsFor_flatMap s.toList fun c _ => standsFor_quoteChar c)

/-- A quoted byte string is read back as the bytes of its pieces. -/
theorem unquote?_quoteBytes (bs : Bytes) :
    unquote? (quoteBytes bs) = some ((Utf8.pieces bs).flatMap Utf8.Piece.bytes) := by
  rw [quoteBytes, unquote?_ofList]
  exact unquoteBody?_of_standsFor
    (standsFor_flatMap (Utf8.pieces bs) fun p _ => standsFor_quotePiece p)

/-! ### What is seen of it -/

theorem isInvisible_digitChar : ∀ d < 16, isInvisible d.digitChar = false := by
  intro d hd
  have hascii : ∀ d < 16, 0x20 ≤ d.digitChar.toNat ∧ d.digitChar.toNat < 0x7F := by decide
  exact isInvisible_eq_false (hascii d hd).1 (hascii d hd).2

theorem isInvisible_eq_false_of_mem_hex {c : Char} (n : Nat) (h : c ∈ hex n) :
    isInvisible c = false := by
  induction n using Nat.strongRecOn with
  | ind n ih =>
    rw [hex, Nat.toDigits_eq_if (by decide)] at h
    split at h
    · rename_i hn
      obtain rfl := List.mem_singleton.1 h
      exact isInvisible_digitChar n hn
    · obtain h | h := List.mem_append.1 h
      · exact ih (n / 16) (by omega) h
      · obtain rfl := List.mem_singleton.1 h
        exact isInvisible_digitChar (n % 16) (Nat.mod_lt n (by decide))

theorem isInvisible_eq_false_of_mem_quoteChar {c d : Char} (h : d ∈ quoteChar c) :
    isInvisible d = false := by
  have hfixed : ∀ {cs : List Char}, (cs.all fun c => 0x20 ≤ c.toNat && c.toNat < 0x7F) = true →
      d ∈ cs → isInvisible d = false := by
    intro cs hcs hd
    have hascii := List.all_eq_true.1 hcs d hd
    simp only [Bool.and_eq_true, decide_eq_true_eq] at hascii
    exact isInvisible_eq_false hascii.1 hascii.2
  obtain ⟨e, hmem, hform⟩ | ⟨-, hform⟩ | ⟨hc, hform⟩ := quoteChar_cases c
  · have hmarked : ∀ p ∈ marked, ['\\', p.2].all (fun c => 0x20 ≤ c.toNat && c.toNat < 0x7F) := by
      decide
    exact hfixed (hmarked (c, e) hmem) (hform ▸ h)
  · rw [hform, List.mem_append, List.mem_append] at h
    obtain (h | h) | h := h
    · exact hfixed (by decide) h
    · exact isInvisible_eq_false_of_mem_hex c.toNat h
    · exact hfixed (by decide) h
  · rw [hform, List.mem_singleton] at h
    rw [h, hc.1]

/-- Nothing in a quoted text is invisible. -/
theorem isInvisible_eq_false_of_mem_quote {s : String} {c : Char} (h : c ∈ (quote s).toList) :
    isInvisible c = false := by
  rw [quote, String.toList_ofList, List.cons_append, List.mem_cons, List.mem_append,
    List.mem_singleton, List.mem_flatMap] at h
  obtain rfl | ⟨d, -, hd⟩ | rfl := h
  · exact isInvisible_eq_false (by decide) (by decide)
  · exact isInvisible_eq_false_of_mem_quoteChar hd
  · exact isInvisible_eq_false (by decide) (by decide)

/-- A quoted text stays on its line. -/
theorem newline_not_mem_quote (s : String) : '\n' ∉ (quote s).toList :=
  fun h => absurd (isInvisible_eq_false_of_mem_quote h) (by decide)

end Switchboard.Text
