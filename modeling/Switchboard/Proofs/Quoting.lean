import Mathlib.Tactic.Common
import Switchboard.Toml.Quotation
import Switchboard.Toml.Writer

/-!
# Written strings are read back

Each style is read back by the reader of its kind. Between single quotes nothing is escaped, so the
styles differ in which strings they can hold at all. Between double quotes every string can be held:
a character stands for itself or is an escape that is read as the character (`escapeChar_cases`).

Between three quotes, the reader ends a string at the first three quotes in a row. The writer never
lets three stand in a row, but up to two may stand directly before the closing ones, and then the
string ends at the first of five.
-/

namespace Switchboard.Toml

/-! ### Characters -/

theorem isPlain_of_not_isControl {c : Char} (h : isControl c = false) : isPlain c = true := by
  rw [isPlain, h]
  exact Bool.or_true _

theorem newline?_of_isPlain {c : Char} (h : isPlain c = true) (r : List Char) :
    newline? (c :: r) = none := by
  unfold newline?
  split
  · rename_i heq
    rw [(List.cons.inj heq).1] at h
    cases h
  · rename_i heq
    rw [(List.cons.inj heq).1] at h
    cases h
  · rfl

theorem escape?_of_code : ∀ n < 0x80, ∀ rest : List Char,
    escape? ('u' :: '0' :: '0' :: Text.hexDigit (n / 16) :: Text.hexDigit (n % 16) :: rest) =
      some (Char.ofNat n, 5) := by
  have hcode : ∀ n < 0x80, codePoint? ['0', '0', Text.hexDigit (n / 16), Text.hexDigit (n % 16)] =
      some (Char.ofNat n) := by decide +kernel
  intro n hn rest
  show (codePoint? ['0', '0', Text.hexDigit (n / 16), Text.hexDigit (n % 16)]).map (·, 5) = _
  rw [hcode n hn]
  rfl

/-- A character between double quotes stands for itself or is an escape that is read as it. -/
theorem escapeChar_cases (c : Char) :
    (escapeChar c = [c] ∧ isPlain c = true ∧ c ≠ '\\') ∨
      ∃ e, escapeChar c = '\\' :: e ∧ ∀ rest, escape? (e ++ rest) = some (c, e.length) := by
  unfold escapeChar
  split_ifs with h1 h2 h3 h4 h5 h6
  · exact .inr ⟨['b'], rfl, fun _ => by rw [h1]; rfl⟩
  · exact .inr ⟨['t'], rfl, fun _ => by rw [h2]; rfl⟩
  · exact .inr ⟨['f'], rfl, fun _ => by rw [h3]; rfl⟩
  · exact .inr ⟨['r'], rfl, fun _ => by rw [h4]; rfl⟩
  · exact .inr ⟨['\\'], rfl, fun _ => by rw [h5]; rfl⟩
  · have hn : c.toNat < 0x80 := by
      simp only [isControl, Bool.or_eq_true, decide_eq_true_eq, beq_iff_eq] at h6
      omega
    refine .inr ⟨_, rfl, fun rest => ?_⟩
    have h := escape?_of_code c.toNat hn rest
    rw [Char.ofNat_toNat] at h
    exact h
  · exact .inl ⟨rfl, isPlain_of_not_isControl (by simpa using h6), h5⟩

theorem escapeLineChar_cases (c : Char) :
    (escapeLineChar c = [c] ∧ isPlain c = true ∧ c ≠ '\\' ∧ c ≠ '"') ∨
      ∃ e, escapeLineChar c = '\\' :: e ∧ ∀ rest, escape? (e ++ rest) = some (c, e.length) := by
  unfold escapeLineChar
  split_ifs with h1 h2
  · exact .inr ⟨['"'], rfl, fun _ => by rw [h1]; rfl⟩
  · exact .inr ⟨['n'], rfl, fun _ => by rw [h2]; rfl⟩
  · rcases escapeChar_cases c with ⟨h, hp, hb⟩ | h
    · exact .inl ⟨h, hp, hb, h1⟩
    · exact .inr h

/-! ### One line -/

theorem basicBody_skip (e rest : List Char) :
    basicBody e.length (e ++ rest) = basicBody 0 rest := by
  induction e with
  | nil => rfl
  | cons c e ih => exact ih

theorem basicBody_escapeLineChar (c : Char) (rest : List Char) :
    basicBody 0 (escapeLineChar c ++ rest) = push c (basicBody 0 rest) := by
  rcases escapeLineChar_cases c with ⟨h, hp, hb, hq⟩ | ⟨e, h, he⟩
  · rw [h, List.singleton_append, basicBody, if_neg hq, if_neg hb, if_pos hp]
  · rw [h, List.cons_append, basicBody, if_neg (by decide), if_pos rfl, he]
    simp only [basicBody_skip]

theorem basicBody_escapeLine (s rest : List Char) :
    basicBody 0 (escapeLine s ++ '"' :: rest) = some (s, rest) := by
  induction s with
  | nil => rfl
  | cons c s ih =>
    rw [escapeLine, List.flatMap_cons, List.append_assoc, basicBody_escapeLineChar]
    rw [escapeLine] at ih
    rw [ih]
    rfl

theorem literalBody_append {s : List Char} (hq : ∀ c ∈ s, c ≠ '\'')
    (hp : ∀ c ∈ s, isPlain c = true) (rest : List Char) :
    literalBody (s ++ '\'' :: rest) = some (s, rest) := by
  induction s with
  | nil => rfl
  | cons c s ih =>
    have ih := ih (fun d hd => hq d (List.mem_cons_of_mem _ hd))
      fun d hd => hp d (List.mem_cons_of_mem _ hd)
    rw [List.cons_append, literalBody, if_neg (hq c List.mem_cons_self),
      if_pos (hp c List.mem_cons_self), ih]
    rfl

/-! ### Several lines -/

/-- Up to two quotes before the closing three belong to the string. -/
theorem closing_append {q : Char} {s rest : List Char} (hr : rest.head? ≠ some q)
    (hs : s = [] ∨ s = [q] ∨ s = [q, q]) : closing q (s ++ rest) = (s, rest) := by
  rcases rest with _ | ⟨c, rest⟩
  · rcases hs with rfl | rfl | rfl
    · rfl
    · simp [closing]
    · simp [closing]
  · have hc : c ≠ q := by simpa using hr
    rcases hs with rfl | rfl | rfl
    · rcases rest with _ | ⟨d, rest⟩
      · simp [closing, hc]
      · simp [closing, hc]
    · simp [closing, hc]
    · simp [closing]

theorem opensThree_self (q : Char) (r : List Char) : opensThree q (q :: q :: q :: r) = true := by
  simp [opensThree]

theorem opensThree_of_head_ne {q c : Char} (h : c ≠ q) (r : List Char) :
    opensThree q (c :: r) = false := by
  unfold opensThree
  split
  · rename_i heq
    rw [(List.cons.inj heq).1] at h
    simp [h]
  · rfl

theorem opensThree_of_second_ne {q c : Char} {r : List Char} (h : r.head? ≠ some q) :
    opensThree q (c :: r) = false := by
  rcases r with _ | ⟨d, _ | ⟨e, r⟩⟩
  · rfl
  · rfl
  · have hd : d ≠ q := by simpa using h
    simp [opensThree, hd]

theorem opensThree_of_third_ne {q c d : Char} {r : List Char} (h : r.head? ≠ some q) :
    opensThree q (c :: d :: r) = false := by
  rcases r with _ | ⟨e, r⟩
  · rfl
  · have he : e ≠ q := by simpa using h
    simp [opensThree, he]

theorem multilineBasicBody_skip (e rest : List Char) :
    multilineBasicBody e.length (e ++ rest) = multilineBasicBody 0 rest := by
  induction e with
  | nil => rfl
  | cons c e ih => exact ih

theorem multilineBasicBody_plain {c : Char} {rest : List Char}
    (hq : opensThree '"' (c :: rest) = false) (hb : c ≠ '\\') (hp : c = '\n' ∨ isPlain c = true) :
    multilineBasicBody 0 (c :: rest) = push c (multilineBasicBody 0 rest) := by
  have hp' : (c = '\n' || isPlain c) = true := by
    rcases hp with rfl | hp
    · rfl
    · rw [hp, Bool.or_true]
  rw [multilineBasicBody, hq, if_neg Bool.false_ne_true, if_neg hb, if_pos hp']

theorem multilineBasicBody_escaped {c : Char} {e : List Char}
    (he : ∀ rest, escape? (e ++ rest) = some (c, e.length)) (rest : List Char) :
    multilineBasicBody 0 ('\\' :: e ++ rest) = push c (multilineBasicBody 0 rest) := by
  have hq : opensThree '"' ('\\' :: (e ++ rest)) = false := opensThree_of_head_ne (by decide) _
  rw [List.cons_append, multilineBasicBody, hq, if_neg Bool.false_ne_true, if_pos rfl, he]
  simp only [multilineBasicBody_skip]

theorem multilineBasicBody_escapeChar {c : Char} (hc : c ≠ '"') (rest : List Char) :
    multilineBasicBody 0 (escapeChar c ++ rest) = push c (multilineBasicBody 0 rest) := by
  rcases escapeChar_cases c with ⟨h, hp, hb⟩ | ⟨e, h, he⟩
  · rw [h]
    exact multilineBasicBody_plain (opensThree_of_head_ne hc _) hb (.inr hp)
  · rw [h]
    exact multilineBasicBody_escaped he rest

/-- Nothing but a quote is written with a quote in front, and not even a third quote in a row. -/
theorem head?_escapeLines_ne {run : Nat} {c : Char} (h : c ≠ '"' ∨ run = 2) (s rest : List Char) :
    (escapeLines run (c :: s) ++ rest).head? ≠ some '"' := by
  rw [escapeLines]
  by_cases hc : c = '"'
  · rw [if_pos hc, if_pos (h.resolve_left (not_not.2 hc))]
    simp
  · rw [if_neg hc]
    by_cases hn : c = '\n'
    · rw [if_pos hn]
      simp
    · rw [if_neg hn]
      rcases escapeChar_cases c with ⟨he, -, -⟩ | ⟨e, he, -⟩
      · simpa [he] using hc
      · simp [he]

/-- A quote with which the writer does not come to the end never stands before two more. -/
theorem opensThree_escapeLines {run : Nat} {c : Char} {s : List Char} (hrun : run < 2)
    (h : ¬ (run = 0 ∧ c = '"' ∧ s = [])) (rest : List Char) :
    opensThree '"' ('"' :: (escapeLines (run + 1) (c :: s) ++ rest)) = false := by
  by_cases hc : c = '"'
  · by_cases h1 : run = 1
    · exact opensThree_of_second_ne (head?_escapeLines_ne (.inr (by omega)) s rest)
    · obtain rfl : run = 0 := by omega
      rcases s with _ | ⟨d, s⟩
      · exact absurd ⟨rfl, hc, rfl⟩ h
      · rw [escapeLines, if_pos hc, if_neg (by decide), List.cons_append]
        exact opensThree_of_third_ne (head?_escapeLines_ne (.inr rfl) s rest)
  · exact opensThree_of_second_ne (head?_escapeLines_ne (.inl hc) s rest)

theorem multilineBasicBody_closing {s rest : List Char} (hr : rest.head? ≠ some '"')
    (hs : s = [] ∨ s = ['"'] ∨ s = ['"', '"']) :
    multilineBasicBody 0 (s ++ ['"', '"', '"'] ++ rest) = some (s, rest) := by
  have h := closing_append hr hs
  rcases hs with rfl | rfl | rfl
  · exact congrArg some h
  · exact congrArg some h
  · exact congrArg some h

/-- A string between three double quotes is read back, however many quotes stand before it. -/
theorem multilineBasicBody_escapeLines {rest : List Char} (hr : rest.head? ≠ some '"') :
    ∀ (s : List Char) (run : Nat), run ≤ 2 →
      multilineBasicBody 0 (escapeLines run s ++ ['"', '"', '"'] ++ rest) = some (s, rest)
  | [], _, _ => multilineBasicBody_closing hr (.inl rfl)
  | c :: s, run, hrun => by
    have ih := multilineBasicBody_escapeLines hr s
    rw [escapeLines]
    by_cases hc : c = '"'
    · subst hc
      rw [if_pos rfl]
      by_cases h2 : run = 2
      · have he : ∀ rest, escape? (['"'] ++ rest) = some ('"', ['"'].length) := fun _ => rfl
        have h := multilineBasicBody_escaped he (escapeLines 0 s ++ ['"', '"', '"'] ++ rest)
        rw [ih 0 (Nat.zero_le 2)] at h
        rw [if_pos h2]
        exact h
      · rw [if_neg h2]
        rcases s with _ | ⟨d, s⟩
        · exact multilineBasicBody_closing hr (.inr (.inl rfl))
        · by_cases hlast : run = 0 ∧ d = '"' ∧ s = []
          · obtain ⟨rfl, rfl, rfl⟩ := hlast
            exact multilineBasicBody_closing hr (.inr (.inr rfl))
          · have ho := opensThree_escapeLines (by omega) hlast (['"', '"', '"'] ++ rest)
            rw [← List.append_assoc] at ho
            have h := multilineBasicBody_plain ho (by decide) (.inr rfl)
            rw [ih (run + 1) (by omega)] at h
            exact h
    · rw [if_neg hc]
      by_cases hn : c = '\n'
      · subst hn
        have ho := opensThree_of_head_ne (q := '"') (c := '\n') (by decide)
          (escapeLines 0 s ++ ['"', '"', '"'] ++ rest)
        have h := multilineBasicBody_plain ho (by decide) (.inl rfl)
        rw [ih 0 (Nat.zero_le 2)] at h
        exact h
      · rw [if_neg hn, List.append_assoc, List.append_assoc, multilineBasicBody_escapeChar hc,
          ← List.append_assoc, ih 0 (Nat.zero_le 2)]
        rfl

theorem hasTriple_tail {q c : Char} {s : List Char} (h : hasTriple q (c :: s) = false) :
    hasTriple q s = false := by
  rcases s with _ | ⟨d, _ | ⟨e, s⟩⟩
  · rfl
  · rfl
  · exact (Bool.or_eq_false_iff.1 h).2

/-- Without three quotes in a row, three quotes open only where the closing ones begin. -/
theorem opensThree_append {q : Char} {s : List Char} (h : hasTriple q s = false)
    (hs : ¬ (s = [] ∨ s = [q] ∨ s = [q, q])) (rest : List Char) :
    opensThree q (s ++ rest) = false := by
  rcases s with _ | ⟨c, _ | ⟨d, _ | ⟨e, s⟩⟩⟩
  · exact absurd (.inl rfl) hs
  · exact opensThree_of_head_ne (fun hc => hs (.inr (.inl (by rw [hc])))) _
  · by_cases hc : c = q
    · refine opensThree_of_second_ne fun hd => hs (.inr (.inr ?_))
      rw [hc, Option.some.inj hd]
    · exact opensThree_of_head_ne hc _
  · exact (Bool.or_eq_false_iff.1 h).1

theorem multilineLiteralBody_closing {s rest : List Char} (hr : rest.head? ≠ some '\'')
    (hs : s = [] ∨ s = ['\''] ∨ s = ['\'', '\'']) :
    multilineLiteralBody (s ++ ['\'', '\'', '\''] ++ rest) = some (s, rest) := by
  have h := closing_append hr hs
  rcases hs with rfl | rfl | rfl
  · exact congrArg some h
  · exact congrArg some h
  · exact congrArg some h

theorem multilineLiteralBody_append {rest : List Char} (hr : rest.head? ≠ some '\'') :
    ∀ (s : List Char), hasTriple '\'' s = false → (∀ c ∈ s, c = '\n' ∨ isPlain c = true) →
      multilineLiteralBody (s ++ ['\'', '\'', '\''] ++ rest) = some (s, rest)
  | [], _, _ => multilineLiteralBody_closing hr (.inl rfl)
  | c :: s, ht, hp => by
    by_cases hs : c :: s = [] ∨ c :: s = ['\''] ∨ c :: s = ['\'', '\'']
    · exact multilineLiteralBody_closing hr hs
    · have ih := multilineLiteralBody_append hr s (hasTriple_tail ht)
        fun d hd => hp d (List.mem_cons_of_mem _ hd)
      have ho := opensThree_append ht hs (['\'', '\'', '\''] ++ rest)
      have hc : (c = '\n' || isPlain c) = true := by
        rcases hp c List.mem_cons_self with rfl | h
        · rfl
        · rw [h, Bool.or_true]
      rw [← List.append_assoc, List.cons_append, List.cons_append] at ho
      rw [List.cons_append, List.cons_append, multilineLiteralBody, ho,
        if_neg Bool.false_ne_true, if_pos hc, ih]
      rfl

/-! ### Styles -/

theorem isPlain_of_not_needsEscape {s : List Char} (h : needsEscape s = false) {c : Char}
    (hc : c ∈ s) (hn : c ≠ '\n') : isPlain c = true := by
  have h := (List.any_eq_false.1 h) c hc
  rw [isPlain]
  by_cases ht : c = '\t'
  · rw [ht]
    rfl
  · rcases hctl : isControl c with _ | _
    · exact Bool.or_true _
    · simp [hctl, ht, hn] at h

theorem head?_escapeLine_ne (c : Char) (s rest : List Char) :
    (escapeLine (c :: s) ++ rest).head? ≠ some '"' := by
  rw [escapeLine, List.flatMap_cons]
  rcases escapeLineChar_cases c with ⟨he, -, -, hq⟩ | ⟨e, he, -⟩
  · simpa [he] using hq
  · simp [he]

theorem quotation_basic (s : List Char) {rest : List Char} (hr : rest.head? ≠ some '"') :
    quotation (Style.basic.write s ++ rest) = some (s, rest) := by
  have htext : Style.basic.write s ++ rest = '"' :: (escapeLine s ++ '"' :: rest) := by
    simp [Style.write]
  have ho : opensThree '"' ('"' :: (escapeLine s ++ '"' :: rest)) = false := by
    rcases s with _ | ⟨c, s⟩
    · exact opensThree_of_third_ne hr
    · exact opensThree_of_second_ne (head?_escapeLine_ne c s _)
  rw [htext, quotation, ho, if_neg Bool.false_ne_true, opensThree_of_head_ne (by decide),
    if_neg Bool.false_ne_true]
  exact basicBody_escapeLine s rest

theorem quotation_literal {s : List Char} (hs : s ≠ []) (hq : ∀ c ∈ s, c ≠ '\'')
    (hp : ∀ c ∈ s, isPlain c = true) (rest : List Char) :
    quotation (Style.literal.write s ++ rest) = some (s, rest) := by
  have htext : Style.literal.write s ++ rest = '\'' :: (s ++ '\'' :: rest) := by
    simp [Style.write]
  have ho : opensThree '\'' ('\'' :: (s ++ '\'' :: rest)) = false := by
    rcases s with _ | ⟨c, s⟩
    · exact absurd rfl hs
    · refine opensThree_of_second_ne ?_
      simpa using hq c List.mem_cons_self
  rw [htext, quotation, opensThree_of_head_ne (by decide), if_neg Bool.false_ne_true, ho,
    if_neg Bool.false_ne_true]
  exact literalBody_append hq hp rest

/-- The line feed that opens a text of several lines is dropped, and nothing else is. -/
theorem dropNewline_opening {s body : List Char}
    (h : '\n' ∉ s → ∃ c r, body = c :: r ∧ isPlain c = true) :
    dropNewline (opening s ++ body) = body := by
  unfold opening
  by_cases hn : '\n' ∈ s
  · rw [if_pos (List.contains_iff_mem.2 hn)]
    rfl
  · obtain ⟨c, r, rfl, hc⟩ := h hn
    rw [if_neg (by simpa using hn), List.nil_append, dropNewline, newline?_of_isPlain hc]
    rfl

theorem escapeLines_head? {s : List Char} (hn : '\n' ∉ s) (rest : List Char) :
    ∃ c r, escapeLines 0 s ++ ['"', '"', '"'] ++ rest = c :: r ∧ isPlain c = true := by
  rcases s with _ | ⟨c, s⟩
  · exact ⟨_, _, rfl, rfl⟩
  · rw [escapeLines]
    by_cases hq : c = '"'
    · rw [if_pos hq, if_neg (by decide)]
      exact ⟨_, _, rfl, rfl⟩
    · have hc : c ≠ '\n' := fun h => hn (h ▸ List.mem_cons_self)
      rw [if_neg hq, if_neg hc]
      rcases escapeChar_cases c with ⟨h, hp, -⟩ | ⟨e, h, -⟩
      · rw [h]
        exact ⟨_, _, rfl, hp⟩
      · rw [h]
        exact ⟨_, _, rfl, rfl⟩

theorem quotation_multilineBasic (s : List Char) {rest : List Char}
    (hr : rest.head? ≠ some '"') :
    quotation (Style.multilineBasic.write s ++ rest) = some (s, rest) := by
  have htext : Style.multilineBasic.write s ++ rest =
      '"' :: '"' :: '"' :: (opening s ++ (escapeLines 0 s ++ ['"', '"', '"'] ++ rest)) := by
    simp [Style.write]
  have hd := dropNewline_opening fun hn => escapeLines_head? (s := s) hn rest
  rw [htext, quotation, if_pos (opensThree_self _ _)]
  simp only [List.drop_succ_cons, List.drop_zero, hd]
  exact multilineBasicBody_escapeLines hr s 0 (Nat.zero_le 2)

theorem quotation_multilineLiteral {s : List Char} (ht : hasTriple '\'' s = false)
    (hp : ∀ c ∈ s, c = '\n' ∨ isPlain c = true) {rest : List Char}
    (hr : rest.head? ≠ some '\'') :
    quotation (Style.multilineLiteral.write s ++ rest) = some (s, rest) := by
  have htext : Style.multilineLiteral.write s ++ rest =
      '\'' :: '\'' :: '\'' :: (opening s ++ (s ++ ['\'', '\'', '\''] ++ rest)) := by
    simp [Style.write]
  have hd : dropNewline (opening s ++ (s ++ ['\'', '\'', '\''] ++ rest)) =
      s ++ ['\'', '\'', '\''] ++ rest := by
    refine dropNewline_opening fun hn => ?_
    rcases s with _ | ⟨c, s⟩
    · exact ⟨_, _, rfl, rfl⟩
    · have hc : c ≠ '\n' := fun h => hn (h ▸ List.mem_cons_self)
      exact ⟨_, _, rfl, (hp c List.mem_cons_self).resolve_left hc⟩
  rw [htext, quotation, opensThree_of_head_ne (by decide), if_neg Bool.false_ne_true,
    if_pos (opensThree_self _ _)]
  simp only [List.drop_succ_cons, List.drop_zero, hd]
  exact multilineLiteralBody_append hr s ht hp

/-- A written string is read back, whatever it holds, before anything but another quote. -/
theorem quotation_writeString (s : List Char) {rest : List Char} (hb : rest.head? ≠ some '"')
    (hl : rest.head? ≠ some '\'') : quotation (writeString s ++ rest) = some (s, rest) := by
  rw [writeString, Style.of]
  split
  · exact quotation_basic s hb
  split
  · rename_i h1 h2
    simp only [Bool.and_eq_true, Bool.not_eq_true', List.contains_eq_mem, decide_eq_false_iff_not]
      at h1 h2
    obtain ⟨⟨he, hq⟩, hn⟩ := h2
    have hs : s ≠ [] := by
      rintro rfl
      exact h1 ⟨⟨⟨he, List.not_mem_nil⟩, List.not_mem_nil⟩, List.not_mem_nil⟩
    exact quotation_literal hs (fun c hc h => hq (h ▸ hc))
      (fun c hc => isPlain_of_not_needsEscape he hc fun h => hn (h ▸ hc)) rest
  split
  · exact quotation_multilineBasic s hb
  split
  · rename_i h
    obtain ⟨he, ht⟩ := (Bool.and_eq_true_iff).1 h
    simp only [Bool.not_eq_true'] at he ht
    refine quotation_multilineLiteral ht (fun c hc => ?_) hl
    by_cases hn : c = '\n'
    · exact .inl hn
    · exact .inr (isPlain_of_not_needsEscape he hc hn)
  split
  · exact quotation_multilineBasic s hb
  · exact quotation_basic s hb

end Switchboard.Toml
