import Mathlib
import Switchboard.Proofs.Levels
import Switchboard.Text.Quoted

/-!
# Which texts name a level

A text is read as a level if what is left of it without the blanks around it is the name of that
level, or `warn` for a warning, but for the case of ASCII letters (`parse_eq_ok_iff_spells`). What
is left is determined by the text (`isCore_iff`), so no blanks that are put around a text matter,
and the case of its letters does not either, since no letter is blank in one case and not in the
other (`trim_map_toLower`).

A text that is no name is refused, and it is shown as it was compared (`parse_eq_error_iff`). Names
hold nothing but letters, so a text is refused if something else is left in it. Among these texts
are the ones under which unknown levels are shown.
-/

namespace Switchboard

namespace Text

/-! ### Trimming -/

/-- What is left of a text without the blanks around it: it neither begins nor ends with one. -/
structure IsCore (cs core : List Char) : Prop where
  within : ∃ before after, cs = before ++ core ++ after ∧ (∀ c ∈ before, isBlank c) ∧
    ∀ c ∈ after, isBlank c
  first : ∀ c ∈ core.head?, isBlank c = false
  last : ∀ c ∈ core.getLast?, isBlank c = false

theorem dropBlanksRight_eq : ∀ cs : List Char, dropBlanksRight cs = cs.rdropWhile isBlank
  | [] => rfl
  | c :: cs => by
    have hcons : dropBlanksRight (c :: cs) = if (dropBlanksRight cs).isEmpty && isBlank c then []
        else c :: dropBlanksRight cs := rfl
    rw [hcons, dropBlanksRight_eq cs, List.rdropWhile, List.rdropWhile, List.reverse_cons,
      List.dropWhile_append]
    rcases hr : cs.reverse.dropWhile isBlank with _ | ⟨d, rest⟩
    · rcases hc : isBlank c with _ | _
      · simp [hc]
      · simp [hc]
    · simp

theorem trim_eq (cs : List Char) : trim cs = (cs.dropWhile isBlank).rdropWhile isBlank :=
  dropBlanksRight_eq _

theorem isCore_trim (cs : List Char) : IsCore cs (trim cs) := by
  rw [trim_eq]
  set rest := cs.dropWhile isBlank with hrest
  refine ⟨⟨cs.takeWhile isBlank, rest.rtakeWhile isBlank, ?_, ?_, ?_⟩, ?_, ?_⟩
  · rw [List.append_assoc, List.rdropWhile_append_rtakeWhile, List.takeWhile_append_dropWhile]
  · exact fun c hc => List.mem_takeWhile_imp hc
  · exact fun c hc => List.mem_rtakeWhile_imp hc
  -- Dropping blanks on the right leaves the character at which dropping on the left has stopped.
  · intro c hc
    obtain ⟨more, hmore⟩ := List.rdropWhile_prefix isBlank rest
    have hhead : rest.head? = some c := by
      rw [← hmore, List.head?_append, Option.mem_def.1 hc, Option.some_or]
    have h := List.head?_dropWhile_not isBlank cs
    rw [← hrest, hhead] at h
    exact h
  · intro c hc
    obtain ⟨hne, rfl⟩ := List.mem_getLast?_eq_getLast hc
    exact Bool.eq_false_iff.2 (List.rdropWhile_last_not isBlank rest hne)

theorem IsCore.eq_trim {cs core : List Char} (h : IsCore cs core) : core = trim cs := by
  obtain ⟨⟨before, after, rfl, hb, ha⟩, hfirst, hlast⟩ := h
  have hafter : ∀ xs : List Char, (xs ++ after).rdropWhile isBlank = xs.rdropWhile isBlank := by
    intro xs
    rw [List.rdropWhile, List.reverse_append,
      List.dropWhile_append_of_pos (fun c hc => ha c (List.mem_reverse.1 hc)), List.rdropWhile]
  rw [trim_eq, List.append_assoc, List.dropWhile_append_of_pos hb]
  -- If nothing is left, the blanks behind it are dropped on the left like those in front.
  rcases core with _ | ⟨c, rest⟩
  · have hall : after.dropWhile isBlank = [] := List.dropWhile_eq_nil_iff.2 ha
    rw [List.nil_append, hall, List.rdropWhile_nil]
  · have hc : isBlank c = false := hfirst c rfl
    have hdrop : ((c :: rest) ++ after).dropWhile isBlank = (c :: rest) ++ after :=
      List.dropWhile_cons_of_neg (by rw [hc]; exact Bool.false_ne_true)
    rw [hdrop, hafter, List.rdropWhile_eq_self_iff.2]
    intro hne hblank
    rw [hlast _ (List.getLast?_eq_some_getLast hne)] at hblank
    cases hblank

theorem isCore_iff {cs core : List Char} : IsCore cs core ↔ core = trim cs :=
  ⟨IsCore.eq_trim, fun h => h ▸ isCore_trim cs⟩

/-- Blanks that are put around a text are trimmed with those that were there. -/
theorem trim_append {before after : List Char} (hb : ∀ c ∈ before, isBlank c)
    (ha : ∀ c ∈ after, isBlank c) (cs : List Char) : trim (before ++ cs ++ after) = trim cs := by
  obtain ⟨⟨b, a, hcs, hb', ha'⟩, hfirst, hlast⟩ := isCore_trim cs
  refine (IsCore.eq_trim ⟨⟨before ++ b, a ++ after, ?_, ?_, ?_⟩, hfirst, hlast⟩).symm
  · conv_lhs => rw [hcs]
    simp only [List.append_assoc]
  · exact fun c hc => (List.mem_append.1 hc).elim (hb c) (hb' c)
  · exact fun c hc => (List.mem_append.1 hc).elim (ha' c) (ha c)

/-! ### Case -/

/-- Two characters that are equal, or the two cases of one ASCII letter. -/
def SameLetter (a b : Char) : Prop :=
  a = b ∨ (a.isUpper ∧ b.toNat = a.toNat + 32) ∨ (b.isUpper ∧ a.toNat = b.toNat + 32)

theorem isUpper_iff {c : Char} : c.isUpper = true ↔ 65 ≤ c.toNat ∧ c.toNat ≤ 90 := by
  refine decide_eq_true_iff.trans ?_
  simp only [ge_iff_le, UInt32.le_iff_toNat_le]
  exact Iff.rfl

theorem toNat_toLower (c : Char) :
    c.toLower.toNat = if c.isUpper then c.toNat + 32 else c.toNat := by
  by_cases h : c.isUpper = true
  · have hc := isUpper_iff.1 h
    have hval : c.toLower.toNat = (c.val + 32).toNat :=
      congrArg Char.toNat (dif_pos (of_decide_eq_true h))
    have hnat : c.val.toNat = c.toNat := rfl
    have hshift : (32 : UInt32).toNat = 32 := rfl
    rw [if_pos h, hval, UInt32.toNat_add]
    omega
  · rw [if_neg h, Char.toLower_eq_of_not_isUpper h]

theorem toLower_eq_iff {a b : Char} : a.toLower = b.toLower ↔ SameLetter a b := by
  rw [← Char.toNat_inj, toNat_toLower, toNat_toLower, SameLetter, ← Char.toNat_inj]
  simp only [isUpper_iff]
  split_ifs <;> omega

theorem map_toLower_eq_iff {cs ds : List Char} :
    cs.map Char.toLower = ds.map Char.toLower ↔ List.Forall₂ SameLetter cs ds := by
  rw [← List.forall₂_eq_eq_eq, List.forall₂_map_left_iff, List.forall₂_map_right_iff]
  simp only [toLower_eq_iff]

theorem isBlank_toLower (c : Char) : isBlank c.toLower = isBlank c := by
  by_cases h : c.isUpper = true
  · have hc := isUpper_iff.1 h
    have hl := toNat_toLower c
    rw [if_pos h] at hl
    simp only [isBlank, hl]
    grind
  · rw [Char.toLower_eq_of_not_isUpper h]

theorem trim_map_toLower (cs : List Char) :
    trim (cs.map Char.toLower) = (trim cs).map Char.toLower := by
  obtain ⟨⟨before, after, hcs, hb, ha⟩, hfirst, hlast⟩ := isCore_trim cs
  refine (IsCore.eq_trim ⟨⟨before.map Char.toLower, after.map Char.toLower, ?_, ?_, ?_⟩,
    ?_, ?_⟩).symm
  · rw [← List.map_append, ← List.map_append, ← hcs]
  · simpa only [List.forall_mem_map, isBlank_toLower] using hb
  · simpa only [List.forall_mem_map, isBlank_toLower] using ha
  · rw [List.head?_map]
    rintro d hd
    obtain ⟨c, hc, rfl⟩ := Option.map_eq_some_iff.1 hd
    exact (isBlank_toLower c).trans (hfirst c hc)
  · rw [List.getLast?_map]
    rintro d hd
    obtain ⟨c, hc, rfl⟩ := Option.map_eq_some_iff.1 hd
    exact (isBlank_toLower c).trans (hlast c hc)

/-! ### Numerals -/

theorem mem_toString_int : ∀ {n : Int} {c : Char}, c ∈ (toString n).toList → c.isDigit ∨ c = '-'
  | .ofNat m, c, h => by
    have h : c ∈ (Nat.repr m).toList := h
    rw [Nat.toList_repr] at h
    exact .inl (Nat.isDigit_of_mem_toDigits (by decide) (by decide) h)
  | .negSucc m, c, h => by
    have h : c ∈ ("-" ++ Nat.repr (m + 1)).toList := h
    rw [String.toList_append, Nat.toList_repr] at h
    rcases List.mem_append.1 h with h | h
    · exact .inr (List.mem_singleton.1 h)
    · exact .inl (Nat.isDigit_of_mem_toDigits (by decide) (by decide) h)

theorem toLower_of_isDigit {c : Char} (h : c.isDigit = true) : c.toLower = c := by
  refine Char.toLower_eq_of_not_isUpper fun hu => ?_
  have hu := isUpper_iff.1 hu
  have hd := (Char.isDigit_iff_toNat.1 h).2
  have hnine : '9'.toNat = 57 := rfl
  omega

theorem map_toLower_toString (n : Int) :
    (toString n).toList.map Char.toLower = (toString n).toList := by
  refine (List.map_congr_left fun c hc => ?_).trans (List.map_id _)
  obtain hd | rfl := mem_toString_int hc
  · exact toLower_of_isDigit hd
  · rfl

end Text

namespace Level

open Text

/-! ### Names -/

/-- What a level is called: its own name, or `warn` for a warning. -/
def IsNamed (l : Level) (name : String) : Prop :=
  l.name? = some name ∨ name = "warn" ∧ l = warning

/-- A text that is read as a name of a level, with blanks around it and with ASCII letters of either
case. -/
def Spells (s : String) (l : Level) : Prop :=
  ∃ before v after name, s.toList = before ++ v ++ after ∧ (∀ c ∈ before, isBlank c) ∧
    (∀ c ∈ after, isBlank c) ∧ l.IsNamed name ∧ List.Forall₂ SameLetter v name.toList

theorem exists_isNamed_of_parse {s : String} {l : Level} (h : parse s = .ok l) :
    ∃ name, l.IsNamed name ∧ fold s = name.toList := by
  have hmem := mem_names_of_parse h
  simp only [names, List.mem_cons, Prod.mk.injEq, List.not_mem_nil, or_false] at hmem
  rcases hmem with ⟨hs, rfl⟩ | ⟨hs, rfl⟩ | ⟨hs, rfl⟩ | ⟨hs, rfl⟩ | ⟨hs, rfl⟩ | ⟨hs, rfl⟩ | ⟨hs, rfl⟩
  · exact ⟨_, .inl rfl, hs⟩
  · exact ⟨_, .inl rfl, hs⟩
  · exact ⟨_, .inl rfl, hs⟩
  · exact ⟨_, .inl rfl, hs⟩
  · exact ⟨_, .inr ⟨rfl, rfl⟩, hs⟩
  · exact ⟨_, .inl rfl, hs⟩
  · exact ⟨_, .inl rfl, hs⟩

theorem parse_of_isNamed {l : Level} {name : String} : l.IsNamed name → parse name = .ok l
  | .inl h => parse_of_name? h
  | .inr ⟨hname, hl⟩ => by rw [hname, hl]; rfl

/-! ### Reading a name -/

theorem map_toLower_fold (s : String) : (fold s).map Char.toLower = fold s := by
  simp only [fold, List.map_map, Function.comp_def, Char.toLower_toLower_eq_toLower]

theorem parse_congr {s t : String} (h : fold s = fold t) : parse s = parse t := by
  rw [parse, parse, ofName?, ofName?, h]

theorem fold_append {before after : List Char} (hb : ∀ c ∈ before, isBlank c)
    (ha : ∀ c ∈ after, isBlank c) (cs : List Char) :
    fold (String.ofList (before ++ cs ++ after)) = fold (String.ofList cs) := by
  simp only [fold, String.toList_ofList, trim_append hb ha]

theorem fold_of_sameLetter {s t : String} (h : List.Forall₂ SameLetter s.toList t.toList) :
    fold s = fold t := by
  rw [fold, fold, ← trim_map_toLower, ← trim_map_toLower, map_toLower_eq_iff.2 h]

theorem parse_eq_ok_iff_spells {s : String} {l : Level} : parse s = .ok l ↔ Spells s l := by
  constructor
  · intro h
    obtain ⟨name, hname, hfold⟩ := exists_isNamed_of_parse h
    obtain ⟨⟨before, after, hs, hb, ha⟩, -, -⟩ := isCore_trim s.toList
    refine ⟨before, trim s.toList, after, name, hs, hb, ha, hname, map_toLower_eq_iff.1 ?_⟩
    calc (trim s.toList).map Char.toLower = fold s := rfl
      _ = (fold s).map Char.toLower := (map_toLower_fold s).symm
      _ = name.toList.map Char.toLower := by rw [hfold]
  · rintro ⟨before, v, after, name, hs, hb, ha, hname, hcase⟩
    rw [← parse_of_isNamed hname]
    refine parse_congr ?_
    calc fold s = fold (String.ofList (before ++ v ++ after)) := by rw [← hs, String.ofList_toList]
      _ = fold (String.ofList v) := fold_append hb ha v
      _ = fold name := fold_of_sameLetter (by rwa [String.toList_ofList])

theorem parse_eq_error_iff {s : String} {f : Fault} :
    parse s = .error f ↔ (∀ l, parse s ≠ .ok l) ∧
      f = .badData ("Unknown log level name: " ++ quote (String.ofList (fold s))) := by
  unfold parse
  rcases ofName? s with _ | l
  · simp only [Except.error.injEq, reduceCtorEq, not_false_eq_true, implies_true, true_and, ne_eq]
    exact eq_comm
  · exact iff_of_false nofun fun h => h.1 l rfl

/-- What is left of a name without the blanks around it is letters. -/
theorem isAlpha_of_parse {s : String} {l : Level} {core : List Char} (h : parse s = .ok l)
    (hcore : IsCore s.toList core) : core ≠ [] ∧ ∀ c ∈ core, c.isAlpha = true := by
  have hnames : ∀ e ∈ names, e.1 ≠ [] ∧ e.1.all Char.isLower = true := by decide
  obtain ⟨hne, hlower⟩ := hnames (fold s, l) (mem_names_of_parse h)
  obtain rfl := hcore.eq_trim
  refine ⟨fun hnil => hne (by rw [fold, hnil]; rfl), fun c hc => ?_⟩
  have hl : c.toLower.isLower = true := List.all_eq_true.1 hlower _ (List.mem_map_of_mem hc)
  rwa [Char.isLower_toLower_eq_isAlpha] at hl

/-! ### Levels without a name -/

variable {l : Level}

theorem display_of_unknown (hl : l.isKnown = false) :
    l.display.toList = "level(".toList ++ (toString l.raw.toInt).toList ++ [')'] := by
  rw [display, name?_eq_none_iff.2 hl]
  simp only [String.toList_append]
  rfl

theorem isCore_display (hl : l.isKnown = false) : IsCore l.display.toList l.display.toList := by
  refine ⟨⟨[], [], by simp, nofun, nofun⟩, ?_, ?_⟩
  · rw [display_of_unknown hl]
    rintro c ⟨⟩
    decide
  · rw [display_of_unknown hl, List.getLast?_concat]
    rintro c ⟨⟩
    decide

/-- An unknown level is shown in a form in which nothing is changed before it is compared. -/
theorem fold_display (hl : l.isKnown = false) : fold l.display = l.display.toList := by
  rw [fold, ← (isCore_display hl).eq_trim, display_of_unknown hl, List.map_append,
    List.map_append, map_toLower_toString]
  rfl

/-- Nothing in this form is escaped where it is quoted. -/
theorem quote_display (hl : l.isKnown = false) : quote l.display = "\"" ++ l.display ++ "\"" := by
  refine quote_of_unescaped fun c hc => ?_
  rw [display_of_unknown hl, List.mem_append, List.mem_append, List.mem_singleton] at hc
  obtain (hc | hc) | rfl := hc
  · have hword : ("level(".toList.all fun c => c.isAlphanum || c == '(') = true := by decide
    obtain hletter | heq := Bool.or_eq_true_iff.1 (List.all_eq_true.1 hword c hc)
    · exact .of_isAlphanum hletter
    · obtain rfl := eq_of_beq heq
      exact .of_ascii (by decide) (by decide) (by decide)
  · obtain hd | rfl := mem_toString_int hc
    · exact .of_isAlphanum (Bool.or_eq_true_iff.2 (.inr hd))
    · exact .of_ascii (by decide) (by decide) (by decide)
  · exact .of_ascii (by decide) (by decide) (by decide)

theorem parse_display (hl : l.isKnown = false) :
    parse l.display =
      .error (.badData ("Unknown log level name: " ++ ("\"" ++ l.display ++ "\""))) := by
  refine parse_eq_error_iff.2 ⟨fun m hm => ?_, by
    rw [fold_display hl, String.ofList_toList, quote_display hl]⟩
  have hmem : ')' ∈ l.display.toList := by
    rw [display_of_unknown hl]
    exact List.mem_append_right _ (List.mem_singleton_self _)
  exact absurd ((isAlpha_of_parse hm (isCore_display hl)).2 _ hmem) (by decide)

/-- A text is read as a level if and only if it is a name of that level, with blanks around it and
with ASCII letters of either case. Hence neither blanks around it nor the case of its letters
matter, every level that is read is known, and every name is read back. Any other text is refused,
and what is left of it without the blanks around it, with ASCII letters in lower case, is shown
between quotes, from which it can be read back and in which nothing is invisible. Among these texts
are those of which nothing is left or something else than ASCII letters, and those that show an
unknown level, which are shown as they are. -/
theorem texts_name_levels (s : String) :
    (∀ l, parse s = .ok l ↔ Spells s l) ∧
      (∀ f, parse s = .error f ↔ (∀ l, ¬ Spells s l) ∧ ∃ core, IsCore s.toList core ∧ ∃ shown,
        f = .badData ("Unknown log level name: " ++ shown) ∧
          shown = quote (String.ofList (core.map Char.toLower)) ∧
          unquote? shown = some (Utf8.encodeChars (core.map Char.toLower)) ∧
          ∀ c ∈ shown.toList, isInvisible c = false) ∧
      (∃ core, IsCore s.toList core ∧ ∀ other, IsCore s.toList other → other = core) ∧
      (∀ before after : List Char, (∀ c ∈ before, isBlank c) → (∀ c ∈ after, isBlank c) →
        parse (String.ofList (before ++ s.toList ++ after)) = parse s) ∧
      (∀ t : String, List.Forall₂ SameLetter s.toList t.toList → parse t = parse s) ∧
      (∀ l, parse s = .ok l → l.isKnown = true) ∧
      (∀ l : Level, l.name? = some s → parse s = .ok l) ∧
      (∀ core, IsCore s.toList core → (core = [] ∨ ∃ c ∈ core, c.isAlpha = false) →
        ∃ f, parse s = .error f) ∧
      ∀ l : Level, l.isKnown = false → s = l.display →
        parse s = .error (.badData ("Unknown log level name: " ++ ("\"" ++ s ++ "\""))) := by
  refine ⟨fun l => parse_eq_ok_iff_spells, fun f => ?_,
    ⟨trim s.toList, isCore_trim _, fun other => IsCore.eq_trim⟩, fun before after hb ha => ?_,
    fun t ht => (parse_congr (fold_of_sameLetter ht)).symm, fun l => isKnown_of_parse,
    fun l => parse_of_name?, fun core hcore hother => ?_, ?_⟩
  · simp only [parse_eq_error_iff, ne_eq, parse_eq_ok_iff_spells, isCore_iff, exists_eq_left]
    refine and_congr_right fun _ => ⟨?_, ?_⟩
    · rintro rfl
      have hread := unquote?_quote (String.ofList (fold s))
      rw [Utf8.encode, String.toList_ofList] at hread
      exact ⟨_, rfl, rfl, hread, fun c => isInvisible_eq_false_of_mem_quote⟩
    · rintro ⟨shown, rfl, rfl, -⟩
      rfl
  · have h := fold_append hb ha s.toList
    rw [String.ofList_toList] at h
    exact parse_congr h
  · rcases hp : parse s with f | l
    · exact ⟨f, rfl⟩
    · obtain ⟨hne, hall⟩ := isAlpha_of_parse hp hcore
      obtain hnil | ⟨c, hc, hfalse⟩ := hother
      · exact absurd hnil hne
      · rw [hall c hc] at hfalse
        cases hfalse
  · rintro l hl rfl
    exact parse_display hl

/-- The long s is an `S` in upper case, and still no ASCII letter. With an `S` in its place the text
is a name. What cannot be seen in a text, and the marks that would end it, are escaped. -/
theorem long_s_spells_no_level :
    let core := "VERBO\u017FE".toList
    let s := "\u3000VERBO\u017FE\u0085"
    let t := "In\tFO\x1B\" \n"
    IsCore s.toList core ∧ (∃ c ∈ core, c.isAlpha = false) ∧
      parse s = .error (.badData "Unknown log level name: \"verbo\u017Fe\"") ∧
      parse t = .error (.badData "Unknown log level name: \"in\\tfo\\u\x7b1b\x7d\\\"\"") ∧
      List.Forall₂ SameLetter "verbose".toList "vERBOSE".toList ∧
      parse "\u3000vERBOSE\u0085" = .ok verbose := by
  intro core s t
  have hcore : IsCore s.toList core := isCore_iff.2 (by decide)
  have hletter : ∃ c ∈ core, c.isAlpha = false := ⟨'\u017F', by decide, by decide⟩
  have hcase : List.Forall₂ SameLetter "verbose".toList "vERBOSE".toList :=
    map_toLower_eq_iff.1 (by decide)
  -- Of a text that is refused, the part between the blanks is shown.
  have hrefused : ∀ {s : String} {core : List Char}, IsCore s.toList core →
      (∃ c ∈ core, c.isAlpha = false) → parse s = .error (.badData
        ("Unknown log level name: " ++ quote (String.ofList (core.map Char.toLower)))) := by
    intro s core hcore hletter
    obtain ⟨-, herror, -, -, -, -, -, hmiss, -⟩ := texts_name_levels s
    obtain ⟨f, hf⟩ := hmiss core hcore (.inr hletter)
    obtain ⟨-, other, hother, shown, rfl, rfl, -⟩ := (herror f).1 hf
    obtain rfl : other = core := hother.eq_trim.trans hcore.eq_trim.symm
    exact hf
  refine ⟨hcore, hletter, ?_, ?_, hcase, ?_⟩
  · have hlong : isInvisible '\u017F' = false := by
      rw [isInvisible_eq_any (by decide)]
      decide +kernel
    have hletters : ("verbo\u017Fe".toList.all fun c => c == '\u017F' || c.isAlphanum) = true := by
      decide
    have hshown : quote "verbo\u017Fe" = "\"verbo\u017Fe\"" := by
      refine quote_of_unescaped fun c hc => ?_
      obtain heq | hletter := Bool.or_eq_true_iff.1 (List.all_eq_true.1 hletters c hc)
      · obtain rfl := eq_of_beq heq
        exact ⟨hlong, by decide, by decide⟩
      · exact .of_isAlphanum hletter
    have hlower : String.ofList (core.map Char.toLower) = "verbo\u017Fe" := by rfl
    have h := hrefused hcore hletter
    rw [hlower, hshown] at h
    exact h
  · have hother : IsCore t.toList "In\tFO\x1B\"".toList := isCore_iff.2 (by decide)
    exact hrefused hother ⟨'\t', by decide, by decide⟩
  · obtain ⟨-, -, -, hblanks, -⟩ := texts_name_levels "vERBOSE"
    obtain ⟨-, -, -, -, hcases, -, hname, -⟩ := texts_name_levels "verbose"
    have hin := hblanks ['\u3000'] ['\u0085'] (List.forall_mem_singleton.2 rfl)
      (List.forall_mem_singleton.2 rfl)
    exact hin.trans ((hcases "vERBOSE" hcase).trans (hname verbose rfl))

end Level

end Switchboard
