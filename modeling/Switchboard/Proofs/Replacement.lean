import Mathlib.Data.List.Basic
import Mathlib.Tactic.Common
import Switchboard.Proofs.Encoding

/-!
# Bytes that spell no text

Where every byte string has to be shown, an ill-formed stretch is shown as U+FFFD (`lossy`). What is
shown of a text is the text, and nothing else is shown without loss (`encode_lossy_eq_iff`). A byte
that is no continuation begins a piece wherever it stands, so what is shown of bytes that are joined
there is what is shown of the parts (`lossy_append_of_head`). It follows that an ill-formed stretch
takes nothing from the text on either side of it (`lossy_append_encode_append`).

A character that is read in part is never more than its first bytes (`Pending.Partial`): reading
these alone leads to the same state. So a stretch is one by itself too (`pieces_of_mem_pieces`), and
no text.
-/

namespace Switchboard.Utf8

/-! ### Parts -/

/-- A byte that only the rest of a character is spelled with. -/
def IsContinuation (b : UInt8) : Prop :=
  0x80 ≤ b.toNat ∧ b.toNat ≤ 0xBF

/-- What a character that is read in part waits for: a continuation byte, and one that exists. -/
def Waits (p : Option Pending) : Prop :=
  ∀ q ∈ p, 0x80 ≤ q.low ∧ q.low ≤ q.high ∧ q.high ≤ 0xBF

theorem waits_none : Waits none := nofun

theorem waits_start (b : UInt8) : Waits (start b).2 := by
  unfold start
  simp only
  split_ifs <;> simp [Waits]
  all_goals omega

theorem waits_step (p : Option Pending) (b : UInt8) : Waits (step p b).2 := by
  rcases p with _ | p
  · exact waits_start b
  · simp only [step]
    split
    · split <;> simp [Waits]
    · exact waits_start b

/-- A byte that is no continuation ends what is pending, as the end of the bytes does. -/
theorem step_of_not_isContinuation {p : Option Pending} (hp : Waits p) {b : UInt8}
    (h : ¬ IsContinuation b) : step p b = (flush p ++ (start b).1, (start b).2) := by
  rcases p with _ | p
  · rfl
  · have hw := hp p rfl
    have hn : ¬ (p.low ≤ b.toNat ∧ b.toNat ≤ p.high) := by
      unfold IsContinuation at h
      omega
    simp only [step, if_neg hn]
    rfl

theorem scan_append_of_head {b : UInt8} (h : ¬ IsContinuation b) (r : Bytes) :
    ∀ (a : Bytes) {p : Option Pending}, Waits p →
      scan p (a ++ b :: r) = scan p a ++ scan none (b :: r)
  | [], p, hp => by
    simp only [List.nil_append, scan, step_of_not_isContinuation hp h, List.append_assoc]
    rfl
  | c :: a, p, _ => by
    simp only [List.cons_append, scan, scan_append_of_head h r a (waits_step p c),
      List.append_assoc]

theorem pieces_append_of_head {a b : Bytes} (h : ∀ c ∈ b.head?, ¬ IsContinuation c) :
    pieces (a ++ b) = pieces a ++ pieces b := by
  rcases b with _ | ⟨c, b⟩
  · rw [List.append_nil]
    exact (List.append_nil _).symm
  · exact scan_append_of_head (h c rfl) b a waits_none

theorem pieces_encodeChars_append (cs : List Char) (b : Bytes) :
    pieces (encodeChars cs ++ b) = cs.map Piece.char ++ pieces b := by
  induction cs with
  | nil => rfl
  | cons c cs ih =>
    rw [List.map_cons, List.cons_append, ← ih, encodeChars, List.flatMap_cons, List.append_assoc]
    exact scan_encodeChar c _

/-- No character begins with a continuation byte. -/
theorem not_isContinuation_of_head_encodeChar {c : Char} {b : UInt8}
    (h : b ∈ (encodeChar c).head?) : ¬ IsContinuation b := by
  have hv := toNat_valid c
  unfold IsContinuation
  unfold encodeChar at h
  simp only at h
  split_ifs at h <;>
  · obtain rfl := Option.some.inj h
    rw [toNat_ofNat_of_lt (by omega)]
    omega

theorem encodeChar_ne_nil (c : Char) : encodeChar c ≠ [] := by
  unfold encodeChar
  simp only
  split_ifs <;> exact List.cons_ne_nil _ _

/-! ### What is shown -/

theorem map_shown_char (cs : List Char) : (cs.map Piece.char).map Piece.shown = cs := by
  rw [List.map_map]
  exact List.map_id cs

theorem lossy_append_of_head {a b : Bytes} (h : ∀ c ∈ b.head?, ¬ IsContinuation c) :
    lossy (a ++ b) = lossy a ++ lossy b := by
  simp only [lossy, lossyChars, pieces_append_of_head h, List.map_append, String.ofList_append]

/-- What is shown of a text is the text, whatever follows it. -/
theorem lossy_encode_append (s : String) (b : Bytes) : lossy (encode s ++ b) = s ++ lossy b := by
  simp only [lossy, lossyChars, encode, pieces_encodeChars_append, List.map_append,
    map_shown_char, String.ofList_append, String.ofList_toList]

theorem lossy_encode (s : String) : lossy (encode s) = s := by
  have h := lossy_encode_append s []
  rwa [List.append_nil, show lossy [] = "" from rfl, String.append_empty] at h

/-- Bytes are shown without loss if and only if they are a text. -/
theorem encode_lossy_eq_iff {bs : Bytes} : encode (lossy bs) = bs ↔ bs.toByteArray.IsValidUTF8 := by
  rw [isValidUTF8_iff_exists_encode]
  constructor
  · intro h
    exact ⟨lossy bs, h⟩
  · rintro ⟨s, rfl⟩
    rw [lossy_encode]

/-- An ASCII byte is shown as what it is, between what is shown of the bytes before and after. -/
theorem lossy_append_ascii {c : UInt8} (h : c.toNat < 0x80) (a b : Bytes) :
    lossy (a ++ c :: b) = lossy a ++ String.singleton (Char.ofNat c.toNat) ++ lossy b := by
  have hs : (String.singleton (Char.ofNat c.toNat)) = String.ofList [Char.ofNat c.toNat] := by
    rfl
  simp only [lossy, lossyChars, pieces_append_ascii h, List.map_append, List.map_cons, hs,
    ← String.ofList_append, List.append_assoc]
  rfl

/-- A text within bytes is shown as what it is, whether or not the bytes around it are a text. -/
theorem lossy_append_encode_append {s : String} (h : s ≠ "") (a b : Bytes) :
    lossy (a ++ (encode s ++ b)) = lossy a ++ (s ++ lossy b) := by
  rw [lossy_append_of_head, lossy_encode_append]
  intro c hc
  rcases hs : s.toList with _ | ⟨d, ds⟩
  · exact absurd (String.toList_eq_nil_iff.1 hs) h
  · rw [encode, hs, encodeChars, List.flatMap_cons, List.append_assoc,
      List.head?_append_of_ne_nil _ (encodeChar_ne_nil d)] at hc
    exact not_isContinuation_of_head_encodeChar hc

/-! ### Ill-formed stretches -/

/-- The bytes seen of a character are where the reading of them alone leads. -/
def Pending.Partial (p : Pending) : Prop :=
  ∀ r, scan none (p.seen ++ r) = scan (some p) r

theorem scan_start (b : UInt8) (r : Bytes) :
    scan none (b :: r) = (start b).1 ++ scan (start b).2 r :=
  rfl

theorem seen_start {b : UInt8} {p : Pending} (h : (start b).2 = some p) :
    (start b).1 = [] ∧ p.seen = [b] := by
  unfold start at h ⊢
  simp only at h ⊢
  split_ifs at h ⊢
  all_goals
    obtain rfl := Option.some.inj h
    exact ⟨rfl, rfl⟩

theorem partial_start {b : UInt8} {p : Pending} (h : (start b).2 = some p) : p.Partial := by
  obtain ⟨hout, hseen⟩ := seen_start h
  intro r
  rw [hseen, List.singleton_append, scan_start, hout, h, List.nil_append]

theorem broken_of_mem_start {b : UInt8} {bs : Bytes} (h : .broken bs ∈ (start b).1) :
    bs = [b] ∧ pieces [b] = [.broken [b]] := by
  have hp : pieces [b] = (start b).1 ++ flush (start b).2 := rfl
  rw [hp]
  unfold start at h ⊢
  simp only at h ⊢
  split_ifs at h ⊢
  all_goals simp only [List.mem_singleton, List.not_mem_nil, Piece.broken.injEq, reduceCtorEq] at h
  · exact ⟨h, rfl⟩
  · exact ⟨h, rfl⟩

/-- What a step makes of a character read in part: either the next byte is taken, or the bytes seen
are a stretch and the byte is read as a first one. -/
theorem partial_step {p q : Pending} {b : UInt8} (hp : p.Partial)
    (h : (step (some p) b).2 = some q) : q.Partial := by
  by_cases hb : p.low ≤ b.toNat ∧ b.toNat ≤ p.high
  · have hq : q.seen = p.seen ++ [b] ∧ (step (some p) b).1 = [] := by
      simp only [step, if_pos hb] at h ⊢
      rcases hm : p.more with _ | k
      · rw [hm] at h
        cases h
      · rw [hm] at h
        obtain rfl := Option.some.inj h
        exact ⟨rfl, rfl⟩
    intro r
    rw [hq.1, List.append_assoc, List.singleton_append, hp (b :: r), scan, hq.2, h, List.nil_append]
  · simp only [step, if_neg hb] at h
    exact partial_start h

theorem pieces_of_partial {p : Pending} (hp : p.Partial) : pieces p.seen = [.broken p.seen] := by
  have h := hp []
  rwa [List.append_nil] at h

theorem broken_of_mem_step {p : Option Pending} (hp : ∀ q ∈ p, q.Partial) {b : UInt8} {bs : Bytes}
    (h : .broken bs ∈ (step p b).1) : pieces bs = [.broken bs] := by
  rcases p with _ | p
  · obtain ⟨rfl, hb⟩ := broken_of_mem_start h
    exact hb
  by_cases hb : p.low ≤ b.toNat ∧ b.toNat ≤ p.high
  · simp only [step, if_pos hb] at h
    split at h
    · simp at h
    · cases h
  · simp only [step, if_neg hb, List.mem_cons] at h
    rcases h with h | h
    · obtain rfl := Piece.broken.inj h
      exact pieces_of_partial (hp p rfl)
    · obtain ⟨rfl, hb⟩ := broken_of_mem_start h
      exact hb

theorem broken_of_mem_scan {bs : Bytes} : ∀ (m : Bytes) {p : Option Pending},
    (∀ q ∈ p, q.Partial) → .broken bs ∈ scan p m → pieces bs = [.broken bs]
  | [], p, hp, h => by
    rcases p with _ | p
    · cases h
    · obtain rfl := Piece.broken.inj (List.mem_singleton.1 h)
      exact pieces_of_partial (hp p rfl)
  | b :: m, p, hp, h => by
    rcases List.mem_append.1 h with h | h
    · exact broken_of_mem_step hp h
    · refine broken_of_mem_scan m (fun q hq => ?_) h
      rcases p with _ | p
      · exact partial_start hq
      · exact partial_step (hp p rfl) hq

/-- An ill-formed stretch is one by itself as well. -/
theorem pieces_of_mem_pieces {m bs : Bytes} (h : .broken bs ∈ pieces m) :
    pieces bs = [.broken bs] :=
  broken_of_mem_scan m (fun _ hq => by cases hq) h

/-- A byte string is a text if and only if no stretch of it is ill-formed. -/
theorem isValidUTF8_iff_forall_not_mem {m : Bytes} :
    m.toByteArray.IsValidUTF8 ↔ ∀ bs, .broken bs ∉ pieces m := by
  rw [isValidUTF8_iff]
  constructor
  · rintro ⟨cs, rfl⟩ bs hbs
    rw [pieces_encodeChars] at hbs
    obtain ⟨c, -, hc⟩ := List.mem_map.1 hbs
    cases hc
  · intro h
    refine ⟨lossyChars m, ?_⟩
    have hp : ∀ p ∈ pieces m, encodeChar p.shown = p.bytes := by
      intro p hp
      rcases p with c | bs
      · rfl
      · exact absurd hp (h bs)
    calc encodeChars (lossyChars m) = (pieces m).flatMap fun p => encodeChar p.shown := by
          rw [encodeChars, lossyChars, List.flatMap_map]
      _ = (pieces m).flatMap Piece.bytes := by
          rw [List.flatMap_def, List.flatMap_def, List.map_congr_left hp]
      _ = m := flatMap_bytes_pieces m

theorem not_isValidUTF8_of_mem_pieces {m bs : Bytes} (h : .broken bs ∈ pieces m) :
    ¬ bs.toByteArray.IsValidUTF8 := by
  intro hv
  refine isValidUTF8_iff_forall_not_mem.1 hv bs ?_
  rw [pieces_of_mem_pieces h]
  exact List.mem_singleton_self _

/-- Wherever bytes are no text, U+FFFD is shown. -/
theorem mem_lossy_of_not_isValidUTF8 {m : Bytes} (h : ¬ m.toByteArray.IsValidUTF8) :
    '\uFFFD' ∈ (lossy m).toList := by
  rw [isValidUTF8_iff_forall_not_mem] at h
  push Not at h
  obtain ⟨bs, hbs⟩ := h
  rw [lossy, String.toList_ofList, lossyChars]
  exact List.mem_map.2 ⟨_, hbs, rfl⟩

/-- A way to show byte strings that changes no text, loses nothing beside what is ill-formed, and
hides nothing that is. -/
structure Faithful (R : Bytes → String) : Prop where
  text : ∀ m, m.toByteArray.IsValidUTF8 → encode (R m) = m
  ascii : ∀ (a b : Bytes) (c : UInt8), c.toNat < 0x80 →
    R (a ++ [c] ++ b) = R a ++ String.singleton (Char.ofNat c.toNat) ++ R b
  between : ∀ (a b : Bytes) (s : String), s ≠ "" → R (a ++ encode s ++ b) = R a ++ s ++ R b
  /-- All bytes are shown in their order, and each ill-formed stretch of them as U+FFFD. -/
  pieces : ∀ m, ∃ ps : List Piece, ps.flatMap Piece.bytes = m ∧
    R m = String.ofList (ps.map Piece.shown) ∧
    ∀ bs, .broken bs ∈ ps → ¬ bs.toByteArray.IsValidUTF8
  illFormed : ∀ m, ¬ m.toByteArray.IsValidUTF8 → '\uFFFD' ∈ (R m).toList

theorem faithful_lossy : Faithful lossy where
  text _ h := encode_lossy_eq_iff.2 h
  ascii a b c h := by
    rw [List.append_assoc, List.singleton_append]
    exact lossy_append_ascii h a b
  between a b s h := by
    rw [List.append_assoc, lossy_append_encode_append h, String.append_assoc]
  pieces m := ⟨Utf8.pieces m, flatMap_bytes_pieces m, rfl, fun _ => not_isValidUTF8_of_mem_pieces⟩
  illFormed _ := mem_lossy_of_not_isValidUTF8

end Switchboard.Utf8
