import Mathlib.Tactic.Common
import Switchboard.Text.Utf8

/-!
# Bytes that spell a text

Reading bytes loses none of them: the characters and the ill-formed stretches of a byte string,
spelled again, are the bytes that were read (`flatMap_bytes_pieces`). What carries this along a
character that is read in part is that every way to complete it gives a character which is spelled
by the bytes that were seen and those that complete it (`Completes`). In the other direction, the
bytes of a character are read as that character whatever follows them. So a byte string has a text
if and only if the text spells it (`decodeChars?_eq_some_iff`).
-/

namespace Switchboard.Utf8

/-! ### Characters -/

theorem toNat_ofNat_of_valid {n : Nat} (h : n.isValidChar) : (Char.ofNat n).toNat = n := by
  rw [Char.ofNat, dif_pos h]
  rfl

theorem toNat_valid (c : Char) : c.toNat < 0xD800 ∨ 0xDFFF < c.toNat ∧ c.toNat < 0x110000 :=
  c.valid

theorem encodeChar_ofNat_one {n : Nat} (h : n < 0x80) :
    encodeChar (Char.ofNat n) = [UInt8.ofNat n] := by
  rw [encodeChar, toNat_ofNat_of_valid (.inl (by omega)), if_pos h]

theorem encodeChar_ofNat_two {n : Nat} (hl : 0x80 ≤ n) (hh : n < 0x800) :
    encodeChar (Char.ofNat n) = [UInt8.ofNat (0xC0 + n / 0x40), UInt8.ofNat (0x80 + n % 0x40)] := by
  rw [encodeChar, toNat_ofNat_of_valid (.inl (by omega)), if_neg (by omega), if_pos hh]

theorem encodeChar_ofNat_three {n : Nat} (hl : 0x800 ≤ n) (hh : n < 0x10000)
    (hs : n < 0xD800 ∨ 0xDFFF < n) :
    encodeChar (Char.ofNat n) =
      [UInt8.ofNat (0xE0 + n / 0x1000), UInt8.ofNat (0x80 + n / 0x40 % 0x40),
        UInt8.ofNat (0x80 + n % 0x40)] := by
  have hv : n.isValidChar := hs.imp id fun h => ⟨h, by omega⟩
  rw [encodeChar, toNat_ofNat_of_valid hv, if_neg (by omega), if_neg (by omega), if_pos hh]

theorem encodeChar_ofNat_four {n : Nat} (hl : 0x10000 ≤ n) (hh : n < 0x110000) :
    encodeChar (Char.ofNat n) =
      [UInt8.ofNat (0xF0 + n / 0x40000), UInt8.ofNat (0x80 + n / 0x1000 % 0x40),
        UInt8.ofNat (0x80 + n / 0x40 % 0x40), UInt8.ofNat (0x80 + n % 0x40)] := by
  rw [encodeChar, toNat_ofNat_of_valid (.inr ⟨by omega, hh⟩), if_neg (by omega),
    if_neg (by omega), if_neg (by omega)]

theorem ofNat_eq_of_toNat {n : Nat} {b : UInt8} (h : n = b.toNat) : UInt8.ofNat n = b := by
  rw [h, UInt8.ofNat_toNat]

/-- The spelling of a character is the standard one. -/
theorem encodeChar_eq (c : Char) : encodeChar c = String.utf8EncodeChar c := by
  have hv := toNat_valid c
  unfold encodeChar String.utf8EncodeChar
  rw [show c.val.toNat = c.toNat from rfl]
  simp only
  generalize c.toNat = n at hv ⊢
  by_cases h1 : n < 0x80
  · rw [if_pos h1, if_pos (by omega)]
  rw [if_neg h1, if_neg (show ¬ n ≤ 127 by omega)]
  by_cases h2 : n < 0x800
  · rw [if_pos h2, if_pos (show n ≤ 2047 by omega),
      show n / 64 % 32 + 192 = 0xC0 + n / 0x40 by omega, Nat.add_comm (n % 64)]
  rw [if_neg h2, if_neg (show ¬ n ≤ 2047 by omega)]
  by_cases h3 : n < 0x10000
  · rw [if_pos h3, if_pos (show n ≤ 65535 by omega),
      show n / 4096 % 16 + 224 = 0xE0 + n / 0x1000 by omega, Nat.add_comm (n / 64 % 64),
      Nat.add_comm (n % 64)]
  · rw [if_neg h3, if_neg (show ¬ n ≤ 65535 by omega),
      show n / 262144 % 8 + 240 = 0xF0 + n / 0x40000 by omega, Nat.add_comm (n / 4096 % 64),
      Nat.add_comm (n / 64 % 64), Nat.add_comm (n % 64)]

/-! ### Reading loses no byte -/

/-- What has been read of a character so far gives, with any bytes that may complete it, a character
that these bytes spell. -/
def Completes : Nat → Bytes → Nat → Nat → Nat → Prop
  | 0, seen, code, low, high => ∀ b : UInt8, low ≤ b.toNat → b.toNat ≤ high →
    encodeChar (Char.ofNat (code * 0x40 + (b.toNat - 0x80))) = seen ++ [b]
  | k + 1, seen, code, low, high => ∀ b : UInt8, low ≤ b.toNat → b.toNat ≤ high →
    Completes k (seen ++ [b]) (code * 0x40 + (b.toNat - 0x80)) 0x80 0xBF

/-- The bytes of a character that has been read in part. -/
def seen : Option Pending → Bytes
  | some p => p.seen
  | none => []

def Spells : Option Pending → Prop
  | some p => Completes p.more p.seen p.code p.low p.high
  | none => True

theorem completes_two {b : UInt8} (hl : 0xC2 ≤ b.toNat) (hh : b.toNat < 0xE0) :
    Completes 0 [b] (b.toNat - 0xC0) 0x80 0xBF := by
  intro c hc hc'
  rw [encodeChar_ofNat_two (by omega) (by omega), ofNat_eq_of_toNat (b := b) (by omega),
    ofNat_eq_of_toNat (b := c) (by omega)]
  rfl

theorem completes_three {b : UInt8} (hl : 0xE0 ≤ b.toNat) (hh : b.toNat < 0xF0) :
    Completes 1 [b] (b.toNat - 0xE0) (if b.toNat = 0xE0 then 0xA0 else 0x80)
      (if b.toNat = 0xED then 0x9F else 0xBF) := by
  intro c hc hc' d hd hd'
  have hc2 : 0x80 ≤ c.toNat := by split_ifs at hc <;> omega
  have hc3 : c.toNat ≤ 0xBF := by split_ifs at hc' <;> omega
  have hlong : 0x800 ≤ ((b.toNat - 0xE0) * 0x40 + (c.toNat - 0x80)) * 0x40 + (d.toNat - 0x80) := by
    split_ifs at hc <;> omega
  have hsur : ((b.toNat - 0xE0) * 0x40 + (c.toNat - 0x80)) * 0x40 + (d.toNat - 0x80) < 0xD800 ∨
      0xDFFF < ((b.toNat - 0xE0) * 0x40 + (c.toNat - 0x80)) * 0x40 + (d.toNat - 0x80) := by
    split_ifs at hc' <;> omega
  rw [encodeChar_ofNat_three hlong (by omega) hsur, ofNat_eq_of_toNat (b := b) (by omega),
    ofNat_eq_of_toNat (b := c) (by omega), ofNat_eq_of_toNat (b := d) (by omega)]
  rfl

theorem completes_four {b : UInt8} (hl : 0xF0 ≤ b.toNat) (hh : b.toNat < 0xF5) :
    Completes 2 [b] (b.toNat - 0xF0) (if b.toNat = 0xF0 then 0x90 else 0x80)
      (if b.toNat = 0xF4 then 0x8F else 0xBF) := by
  intro c hc hc' d hd hd' e he he'
  have hc2 : 0x80 ≤ c.toNat := by split_ifs at hc <;> omega
  have hc3 : c.toNat ≤ 0xBF := by split_ifs at hc' <;> omega
  have hlong : 0x10000 ≤ (((b.toNat - 0xF0) * 0x40 + (c.toNat - 0x80)) * 0x40 +
      (d.toNat - 0x80)) * 0x40 + (e.toNat - 0x80) := by
    split_ifs at hc <;> omega
  have hlast : (((b.toNat - 0xF0) * 0x40 + (c.toNat - 0x80)) * 0x40 + (d.toNat - 0x80)) * 0x40 +
      (e.toNat - 0x80) < 0x110000 := by
    split_ifs at hc' <;> omega
  rw [encodeChar_ofNat_four hlong hlast, ofNat_eq_of_toNat (b := b) (by omega),
    ofNat_eq_of_toNat (b := c) (by omega), ofNat_eq_of_toNat (b := d) (by omega),
    ofNat_eq_of_toNat (b := e) (by omega)]
  rfl

theorem start_spells (b : UInt8) :
    (start b).1.flatMap Piece.bytes ++ seen (start b).2 = [b] ∧ Spells (start b).2 := by
  unfold start
  simp only
  split
  · rename_i h
    refine ⟨?_, trivial⟩
    simp only [List.flatMap_cons, List.flatMap_nil, Piece.bytes, seen, List.append_nil]
    rw [encodeChar_ofNat_one h, UInt8.ofNat_toNat]
  split
  · exact ⟨rfl, trivial⟩
  split
  · exact ⟨rfl, completes_two (by omega) (by omega)⟩
  split
  · exact ⟨rfl, completes_three (by omega) (by omega)⟩
  split
  · exact ⟨rfl, completes_four (by omega) (by omega)⟩
  · exact ⟨rfl, trivial⟩

/-- Reading a byte keeps it, in a piece or in what is pending. -/
theorem step_spells {p : Option Pending} (hp : Spells p) (b : UInt8) :
    (step p b).1.flatMap Piece.bytes ++ seen (step p b).2 = seen p ++ [b] ∧
      Spells (step p b).2 := by
  rcases p with _ | ⟨seen', code, more, low, high⟩
  · exact start_spells b
  · have hc : Completes more seen' code low high := hp
    simp only [step]
    split
    · rename_i hb
      rcases more with _ | k
      · refine ⟨?_, trivial⟩
        simp only [List.flatMap_cons, List.flatMap_nil, Piece.bytes, seen, List.append_nil]
        exact hc b hb.1 hb.2
      · exact ⟨rfl, hc b hb.1 hb.2⟩
    · obtain ⟨hbytes, hnext⟩ := start_spells b
      refine ⟨?_, hnext⟩
      rw [List.flatMap_cons, List.append_assoc, hbytes]
      rfl

theorem flatMap_bytes_scan : ∀ (bs : Bytes) {p : Option Pending}, Spells p →
    (scan p bs).flatMap Piece.bytes = seen p ++ bs
  | [], p, _ => by
    rcases p with _ | p
    · rfl
    · rfl
  | b :: bs, p, hp => by
    obtain ⟨hstep, hnext⟩ := step_spells hp b
    rw [scan, List.flatMap_append, flatMap_bytes_scan bs hnext, ← List.append_assoc, hstep,
      List.append_assoc]
    rfl

/-- The pieces of a byte string, spelled again, are the bytes. -/
theorem flatMap_bytes_pieces (bs : Bytes) : (pieces bs).flatMap Piece.bytes = bs :=
  flatMap_bytes_scan bs trivial

/-! ### A character is read as itself -/

section Reading

variable {b : UInt8} {seen' : Bytes} {code low high : Nat}

theorem scan_pending_last (hl : low ≤ b.toNat) (hh : b.toNat ≤ high) (bs : Bytes) :
    scan (some ⟨seen', code, 0, low, high⟩) (b :: bs) =
      .char (Char.ofNat (code * 0x40 + (b.toNat - 0x80))) :: scan none bs := by
  simp only [scan, step, if_pos (And.intro hl hh)]
  rfl

theorem scan_pending_more {k : Nat} (hl : low ≤ b.toNat) (hh : b.toNat ≤ high) (bs : Bytes) :
    scan (some ⟨seen', code, k + 1, low, high⟩) (b :: bs) =
      scan (some ⟨seen' ++ [b], code * 0x40 + (b.toNat - 0x80), k, 0x80, 0xBF⟩) bs := by
  simp only [scan, step, if_pos (And.intro hl hh)]
  rfl

theorem scan_start_one (h : b.toNat < 0x80) (bs : Bytes) :
    scan none (b :: bs) = .char (Char.ofNat b.toNat) :: scan none bs := by
  simp only [scan, step, start, if_pos h]
  rfl

theorem scan_start_two (hl : 0xC2 ≤ b.toNat) (hh : b.toNat < 0xE0) (bs : Bytes) :
    scan none (b :: bs) = scan (some ⟨[b], b.toNat - 0xC0, 0, 0x80, 0xBF⟩) bs := by
  simp only [scan, step, start, if_neg (show ¬ b.toNat < 0x80 by omega),
    if_neg (show ¬ b.toNat < 0xC2 by omega), if_pos hh]
  rfl

theorem scan_start_three (hl : 0xE0 ≤ b.toNat) (hh : b.toNat < 0xF0) (bs : Bytes) :
    scan none (b :: bs) =
      scan (some ⟨[b], b.toNat - 0xE0, 1, if b.toNat = 0xE0 then 0xA0 else 0x80,
        if b.toNat = 0xED then 0x9F else 0xBF⟩) bs := by
  simp only [scan, step, start, if_neg (show ¬ b.toNat < 0x80 by omega),
    if_neg (show ¬ b.toNat < 0xC2 by omega), if_neg (show ¬ b.toNat < 0xE0 by omega), if_pos hh]
  rfl

theorem scan_start_four (hl : 0xF0 ≤ b.toNat) (hh : b.toNat < 0xF5) (bs : Bytes) :
    scan none (b :: bs) =
      scan (some ⟨[b], b.toNat - 0xF0, 2, if b.toNat = 0xF0 then 0x90 else 0x80,
        if b.toNat = 0xF4 then 0x8F else 0xBF⟩) bs := by
  simp only [scan, step, start, if_neg (show ¬ b.toNat < 0x80 by omega),
    if_neg (show ¬ b.toNat < 0xC2 by omega), if_neg (show ¬ b.toNat < 0xE0 by omega),
    if_neg (show ¬ b.toNat < 0xF0 by omega), if_pos hh]
  rfl

end Reading

/-- The bound is a numeral here, so that `omega` can discharge it. -/
theorem toNat_ofNat_of_lt {n : Nat} (h : n < 0x100) : (UInt8.ofNat n).toNat = n :=
  UInt8.toNat_ofNat_of_lt' h

theorem scan_encodeChar (c : Char) (bs : Bytes) :
    scan none (encodeChar c ++ bs) = .char c :: scan none bs := by
  have hv := toNat_valid c
  have hc : ∀ n, n = c.toNat → Char.ofNat n = c := fun n h => h ▸ Char.ofNat_toNat c
  unfold encodeChar
  simp only
  split_ifs with h1 h2 h3
  · have hb := toNat_ofNat_of_lt (n := c.toNat) (by omega)
    rw [List.singleton_append, scan_start_one (by omega), hc _ hb]
  · have hb := toNat_ofNat_of_lt (n := 0xC0 + c.toNat / 0x40) (by omega)
    have hd := toNat_ofNat_of_lt (n := 0x80 + c.toNat % 0x40) (by omega)
    rw [List.cons_append, List.singleton_append, scan_start_two (by omega) (by omega),
      scan_pending_last (by omega) (by omega), hc _ (by omega)]
  · have hb := toNat_ofNat_of_lt (n := 0xE0 + c.toNat / 0x1000) (by omega)
    have hd := toNat_ofNat_of_lt (n := 0x80 + c.toNat / 0x40 % 0x40) (by omega)
    have he := toNat_ofNat_of_lt (n := 0x80 + c.toNat % 0x40) (by omega)
    rw [List.cons_append, List.cons_append, List.singleton_append,
      scan_start_three (by omega) (by omega),
      scan_pending_more (by split_ifs <;> omega) (by split_ifs <;> omega),
      scan_pending_last (by omega) (by omega), hc _ (by omega)]
  · have hb := toNat_ofNat_of_lt (n := 0xF0 + c.toNat / 0x40000) (by omega)
    have hd := toNat_ofNat_of_lt (n := 0x80 + c.toNat / 0x1000 % 0x40) (by omega)
    have he := toNat_ofNat_of_lt (n := 0x80 + c.toNat / 0x40 % 0x40) (by omega)
    have hf := toNat_ofNat_of_lt (n := 0x80 + c.toNat % 0x40) (by omega)
    rw [List.cons_append, List.cons_append, List.cons_append, List.singleton_append,
      scan_start_four (by omega) (by omega),
      scan_pending_more (by split_ifs <;> omega) (by split_ifs <;> omega),
      scan_pending_more (by omega) (by omega),
      scan_pending_last (by omega) (by omega), hc _ (by omega)]

theorem pieces_encodeChars (cs : List Char) : pieces (encodeChars cs) = cs.map Piece.char := by
  induction cs with
  | nil => rfl
  | cons c cs ih =>
    rw [List.map_cons, ← ih]
    exact scan_encodeChar c (encodeChars cs)

theorem eq_map_char_of_mapM : ∀ (ps : List Piece) {cs : List Char},
    ps.mapM Piece.char? = some cs → ps = cs.map Piece.char
  | [], cs, h => by
    obtain rfl := Option.some.inj h
    rfl
  | p :: ps, cs, h => by
    rw [List.mapM_cons] at h
    obtain ⟨c, hp, h⟩ := Option.bind_eq_some_iff.1 h
    obtain ⟨cs', hps, h⟩ := Option.bind_eq_some_iff.1 h
    obtain rfl := Option.some.inj h
    rcases p with c' | bytes
    · obtain rfl := Option.some.inj hp
      rw [List.map_cons, ← eq_map_char_of_mapM ps hps]
    · cases hp

theorem mapM_char (cs : List Char) : (cs.map Piece.char).mapM Piece.char? = some cs := by
  induction cs with
  | nil => rfl
  | cons c cs ih =>
    rw [List.map_cons, List.mapM_cons, ih]
    rfl

/-- A byte string is read as a text if and only if the text spells it. -/
theorem decodeChars?_eq_some_iff {bs : Bytes} {cs : List Char} :
    decodeChars? bs = some cs ↔ encodeChars cs = bs := by
  constructor
  · intro h
    have hp := eq_map_char_of_mapM _ h
    rw [← flatMap_bytes_pieces bs, hp, List.flatMap_map]
    rfl
  · rintro rfl
    rw [decodeChars?, pieces_encodeChars, mapM_char]

/-- The byte strings that some text spells are the valid ones of the standard. -/
theorem isValidUTF8_iff {bs : Bytes} :
    bs.toByteArray.IsValidUTF8 ↔ ∃ cs, encodeChars cs = bs := by
  have hcs : ∀ cs : List Char, cs.utf8Encode = (encodeChars cs).toByteArray := by
    intro cs
    rw [List.utf8Encode, encodeChars, funext encodeChar_eq]
  constructor
  · rintro ⟨cs, h⟩
    rw [hcs, List.toByteArray_inj] at h
    exact ⟨cs, h.symm⟩
  · rintro ⟨cs, rfl⟩
    exact ⟨cs, (hcs cs).symm⟩

theorem decodeChars?_eq_none_iff {bs : Bytes} :
    decodeChars? bs = none ↔ ¬ bs.toByteArray.IsValidUTF8 := by
  rw [isValidUTF8_iff, Option.eq_none_iff_forall_ne_some, not_exists]
  exact forall_congr' fun cs => not_congr decodeChars?_eq_some_iff

/-! ### Strings -/

theorem decode?_eq_some_iff {bs : Bytes} {s : String} : decode? bs = some s ↔ encode s = bs := by
  rw [decode?, Option.map_eq_some_iff, encode]
  constructor
  · rintro ⟨cs, hcs, rfl⟩
    rw [String.toList_ofList]
    exact decodeChars?_eq_some_iff.1 hcs
  · intro h
    exact ⟨s.toList, decodeChars?_eq_some_iff.2 h, String.ofList_toList⟩

theorem isValidUTF8_iff_exists_encode {bs : Bytes} :
    bs.toByteArray.IsValidUTF8 ↔ ∃ s, encode s = bs := by
  rw [isValidUTF8_iff]
  constructor
  · rintro ⟨cs, h⟩
    exact ⟨String.ofList cs, by rw [encode, String.toList_ofList, h]⟩
  · rintro ⟨s, h⟩
    exact ⟨s.toList, h⟩

theorem isValidUTF8_encode (s : String) : (encode s).toByteArray.IsValidUTF8 :=
  isValidUTF8_iff_exists_encode.2 ⟨s, rfl⟩

theorem encode_injective {a b : String} (h : encode a = encode b) : a = b :=
  Option.some.inj ((decode?_eq_some_iff.2 h).symm.trans (decode?_eq_some_iff.2 rfl))

end Switchboard.Utf8
