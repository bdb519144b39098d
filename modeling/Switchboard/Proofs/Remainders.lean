import Mathlib.Tactic.Common
import Switchboard.Toml.Document

/-!
# What readers leave

A reader leaves an end of the text that it was given (`Leaves`). So the position at which something
begins, which is how much of the text is left there, goes down along a document: what a statement
puts into the document begins where the statement does or behind that (`Statement.start`), and every
later statement begins behind its line (`pairwise_start`).
-/

namespace Switchboard.Toml

/-- A reader leaves what stands behind that which it has read. -/
def Leaves {α : Type} (f : Reader α) : Prop :=
  ∀ ⦃s : List Char⦄ ⦃a : α⦄ ⦃r : List Char⦄, f s = some (a, r) → r <:+ s

section Texts

variable {s cs r : List Char}

/-! ### Blanks -/

theorem dropSpaces_suffix (s : List Char) : dropSpaces s <:+ s :=
  List.dropWhile_suffix isSpace

theorem newline?_suffix (h : newline? s = some r) : r <:+ s ∧ r.length < s.length := by
  unfold newline? at h
  split at h
  · obtain rfl := Option.some.inj h
    exact ⟨List.suffix_cons _ _, Nat.lt_succ_self _⟩
  · obtain rfl := Option.some.inj h
    exact ⟨⟨['\r', '\n'], rfl⟩, by simp only [List.length_cons]; omega⟩
  · cases h

theorem dropComment_suffix (s : List Char) : dropComment s <:+ s := by
  unfold dropComment
  split
  · exact (List.dropWhile_suffix isPlain).trans (List.suffix_cons _ _)
  · exact List.suffix_rfl

/-- Behind a line there is nothing, or less than there was before its end. -/
theorem lineEnd?_suffix (h : lineEnd? s = some r) : r <:+ s ∧ (r = [] ∨ r.length < s.length) := by
  have hs : dropComment (dropSpaces s) <:+ s :=
    (dropComment_suffix _).trans (dropSpaces_suffix s)
  unfold lineEnd? at h
  split at h
  · obtain rfl := Option.some.inj h
    exact ⟨List.nil_suffix, .inl rfl⟩
  · obtain ⟨hr, hlt⟩ := newline?_suffix h
    exact ⟨hr.trans hs, .inr (Nat.lt_of_lt_of_le hlt hs.length_le)⟩

theorem dropTrivia_suffix (comment : Bool) (s : List Char) : dropTrivia comment s <:+ s := by
  fun_induction dropTrivia comment s with
  | case1 => exact List.suffix_rfl
  | case2 _ r ih => exact ih.trans ⟨['\r', '\n'], rfl⟩
  | case7 => exact List.suffix_rfl
  | _ => exact List.IsSuffix.trans ‹_› (List.suffix_cons _ _)

/-! ### Quotations -/

theorem rest_of_push {c : Char} {rest : Option (List Char × List Char)} {cs r : List Char}
    (h : push c rest = some (cs, r)) : ∃ cs', rest = some (cs', r) := by
  obtain ⟨⟨cs', r'⟩, hrest, heq⟩ := Option.map_eq_some_iff.1 h
  obtain rfl : r' = r := congrArg Prod.snd heq
  exact ⟨cs', hrest⟩

theorem basicBody_leaves : ∀ (skip : Nat) (s : List Char) {cs r : List Char},
    basicBody skip s = some (cs, r) → r <:+ s
  | _, [], _, _, h => by
    unfold basicBody at h
    cases h
  | skip + 1, c :: s, _, _, h => by
    rw [basicBody] at h
    exact (basicBody_leaves skip s h).trans (List.suffix_cons c s)
  | 0, c :: s, cs, r, h => by
    have hn : ∀ n {e cs}, push e (basicBody n s) = some (cs, r) → r <:+ c :: s := by
      intro n e cs h
      obtain ⟨cs', hrest⟩ := rest_of_push h
      exact (basicBody_leaves n s hrest).trans (List.suffix_cons c s)
    rw [basicBody] at h
    split_ifs at h
    · obtain rfl := (Prod.mk.inj (Option.some.inj h)).2
      exact List.suffix_cons c s
    · split at h
      · exact hn _ h
      · cases h
    · exact hn _ h

theorem literalBody_leaves : Leaves literalBody := by
  intro s
  induction s with
  | nil => exact nofun
  | cons c s ih =>
    intro cs r h
    rw [literalBody] at h
    split_ifs at h
    · obtain rfl := (Prod.mk.inj (Option.some.inj h)).2
      exact List.suffix_cons c s
    · obtain ⟨cs', hrest⟩ := rest_of_push h
      exact (ih hrest).trans (List.suffix_cons c s)

theorem closing_suffix (q : Char) (s : List Char) : (closing q s).2 <:+ s := by
  unfold closing
  split
  · split_ifs
    · exact ⟨[_, _], rfl⟩
    · exact List.suffix_cons _ _
    · exact List.suffix_rfl
  · split_ifs
    · exact List.nil_suffix
    · exact List.suffix_rfl
  · exact List.suffix_rfl

theorem suffix_of_closing {q c : Char} (h : some (closing q (s.drop 2)) = some (cs, r)) :
    r <:+ c :: s := by
  obtain rfl : (closing q (s.drop 2)).2 = r := congrArg Prod.snd (Option.some.inj h)
  exact ((closing_suffix q _).trans (List.drop_suffix 2 s)).trans (List.suffix_cons c s)

theorem multilineBasicBody_leaves : ∀ (skip : Nat) (s : List Char) {cs r : List Char},
    multilineBasicBody skip s = some (cs, r) → r <:+ s
  | _, [], _, _, h => by
    unfold multilineBasicBody at h
    cases h
  | skip + 1, c :: s, _, _, h => by
    rw [multilineBasicBody] at h
    exact (multilineBasicBody_leaves skip s h).trans (List.suffix_cons c s)
  | 0, c :: s, cs, r, h => by
    have hn : ∀ n {cs}, multilineBasicBody n s = some (cs, r) → r <:+ c :: s :=
      fun n _ h => (multilineBasicBody_leaves n s h).trans (List.suffix_cons c s)
    rw [multilineBasicBody] at h
    split_ifs at h
    · exact suffix_of_closing h
    · split at h
      · obtain ⟨cs', hrest⟩ := rest_of_push h
        exact hn _ hrest
      · exact hn _ h
      · cases h
    · obtain ⟨cs', hrest⟩ := rest_of_push h
      exact hn _ hrest
    · exact hn _ h

theorem multilineLiteralBody_leaves : Leaves multilineLiteralBody := by
  intro s
  induction s with
  | nil => exact nofun
  | cons c s ih =>
    intro cs r h
    rw [multilineLiteralBody] at h
    split_ifs at h
    · exact suffix_of_closing h
    · obtain ⟨cs', hrest⟩ := rest_of_push h
      exact (ih hrest).trans (List.suffix_cons c s)
    · exact (ih h).trans (List.suffix_cons c s)

theorem dropNewline_suffix (s : List Char) : dropNewline s <:+ s := by
  unfold dropNewline
  rcases h : newline? s with _ | r
  · exact List.suffix_rfl
  · exact (newline?_suffix h).1

theorem quotedLine_leaves : Leaves quotedLine := by
  intro s cs r h
  unfold quotedLine at h
  split at h
  · exact (basicBody_leaves 0 _ h).trans (List.suffix_cons _ _)
  · exact (literalBody_leaves h).trans (List.suffix_cons _ _)
  · cases h

theorem quotation_leaves : Leaves quotation := by
  intro s cs r h
  have hopen : dropNewline (s.drop 3) <:+ s :=
    (dropNewline_suffix _).trans (List.drop_suffix 3 s)
  unfold quotation at h
  split_ifs at h
  · exact (multilineBasicBody_leaves 0 _ h).trans hopen
  · exact (multilineLiteralBody_leaves h).trans hopen
  · exact quotedLine_leaves h

/-! ### Keys -/

theorem segmentName_leaves : Leaves segmentName := by
  intro s cs r h
  unfold segmentName at h
  split at h
  · exact quotedLine_leaves h
  · exact quotedLine_leaves h
  · simp only at h
    split_ifs at h
    obtain rfl := (Prod.mk.inj (Option.some.inj h)).2
    exact List.dropWhile_suffix isBareKeyChar

/-- Something begins within what is read, at the position `p`. -/
def Begins (s r : List Char) (p : Nat) : Prop :=
  r.length ≤ p ∧ p ≤ s.length

theorem Begins.mono {s s' r r' : List Char} {p : Nat} (h : Begins s r p) (hs : s <:+ s')
    (hr : r' <:+ r) : Begins s' r' p :=
  ⟨Nat.le_trans hr.length_le h.1, Nat.le_trans h.2 hs.length_le⟩

theorem segment_leaves {k : Key} (h : segment s = some (k, r)) :
    r <:+ s ∧ Begins s r k.span.start := by
  obtain ⟨⟨name, r'⟩, hname, heq⟩ := Option.map_eq_some_iff.1 h
  obtain ⟨rfl, rfl⟩ := Prod.mk.inj heq
  have hr : dropSpaces r' <:+ dropSpaces s :=
    (dropSpaces_suffix r').trans (segmentName_leaves hname)
  exact ⟨hr.trans (dropSpaces_suffix s), hr.length_le, (dropSpaces_suffix s).length_le⟩

/-- A path of keys begins where its first key does. -/
theorem keyPathOf_leaves : ∀ (limit : Nat) {s r : List Char} {ks : List Key},
    keyPathOf limit s = some (ks, r) →
      r <:+ s ∧ ∃ k ks', ks = k :: ks' ∧ Begins s r k.span.start
  | 0, _, _, _, h => nomatch h
  | limit + 1, s, r, ks, h => by
    rw [keyPathOf] at h
    split at h
    · cases h
    · rename_i k r' hk
      obtain ⟨hr, hb⟩ := segment_leaves hk
      obtain ⟨⟨ks', r''⟩, hks, heq⟩ := Option.map_eq_some_iff.1 h
      obtain ⟨rfl, rfl⟩ := Prod.mk.inj heq
      have hr' := (keyPathOf_leaves limit hks).1.trans (List.suffix_cons '.' r')
      exact ⟨hr'.trans hr, k, ks', rfl, hb.mono List.suffix_rfl hr'⟩
    · rename_i k r' _ hk
      obtain ⟨rfl, rfl⟩ := Prod.mk.inj (Option.some.inj h)
      obtain ⟨hr, hb⟩ := segment_leaves hk
      exact ⟨hr, k, [], rfl, hb⟩

/-! ### Values -/

theorem bareScalar_leaves : Leaves bareScalar := by
  intro s x r h
  have hafter : afterWord s <:+ s := List.dropWhile_suffix isWordChar
  unfold bareScalar at h
  simp only at h
  split at h
  · rename_i r' _ heq
    have hr' : r' <:+ s := (List.suffix_cons ' ' r').trans (heq ▸ hafter)
    split_ifs at h
    · obtain rfl := (Prod.mk.inj (Option.some.inj h)).2
      exact (List.dropWhile_suffix isWordChar).trans hr'
    · obtain rfl := (Prod.mk.inj (Option.some.inj h)).2
      exact hafter
  · obtain ⟨_, -, heq⟩ := Option.map_eq_some_iff.1 h
    obtain rfl := (Prod.mk.inj heq).2
    exact hafter

theorem scalar_leaves : Leaves scalar := by
  intro s x r h
  unfold scalar at h
  split at h
  · obtain ⟨⟨cs, r'⟩, hq, heq⟩ := Option.map_eq_some_iff.1 h
    obtain rfl := (Prod.mk.inj heq).2
    exact quotation_leaves hq
  · obtain ⟨⟨cs, r'⟩, hq, heq⟩ := Option.map_eq_some_iff.1 h
    obtain rfl := (Prod.mk.inj heq).2
    exact quotation_leaves hq
  · exact bareScalar_leaves h

/-- Where the text of an item begins, if it has a text of its own. -/
def Origin.start? (o : Origin) : Option Nat :=
  o.span?.map (·.start)

def Item.start? (i : Item) : Option Nat :=
  i.span?.map (·.start)

/-- A reader of items, each of which begins where the text does that it is read from. -/
def ReadsItems (f : Reader Item) : Prop :=
  ∀ ⦃s : List Char⦄ ⦃i : Item⦄ ⦃r : List Char⦄, f s = some (i, r) →
    r <:+ s ∧ i.start? = some s.length

section Items

variable {f : Reader Item} (hf : ReadsItems f)

include hf

theorem elements_leaves : ∀ n, Leaves (elements f n)
  | 0 => nofun
  | n + 1 => fun s is r h => by
    rw [elements] at h
    split at h
    · rename_i r' heq
      obtain rfl := (Prod.mk.inj (Option.some.inj h)).2
      exact (List.suffix_cons ']' r').trans (heq ▸ dropTrivia_suffix false s)
    · split at h
      · cases h
      · rename_i i r' hi
        have hr' : dropTrivia false r' <:+ s :=
          (dropTrivia_suffix false r').trans ((hf hi).1.trans (dropTrivia_suffix false s))
        split at h
        · rename_i r'' heq
          obtain rfl := (Prod.mk.inj (Option.some.inj h)).2
          exact (List.suffix_cons ']' r'').trans (heq ▸ hr')
        · rename_i r'' heq
          obtain ⟨⟨is', r₁⟩, his, hpair⟩ := Option.map_eq_some_iff.1 h
          obtain rfl := (Prod.mk.inj hpair).2
          exact (elements_leaves n his).trans ((List.suffix_cons ',' r'').trans (heq ▸ hr'))
        · cases h

theorem array_leaves (start : Nat) {i : Item} (h : array f start s = some (i, r)) :
    r <:+ s ∧ i.start? = some start := by
  obtain ⟨⟨is, r'⟩, his, heq⟩ := Option.map_eq_some_iff.1 h
  obtain ⟨rfl, rfl⟩ := Prod.mk.inj heq
  exact ⟨elements_leaves hf _ his, rfl⟩

/-- What an assignment puts into a table begins with its value, or, where dotted keys come before,
with the first of these. -/
def Assignment.start (a : Assignment) : Nat :=
  match a.path with
  | [] => a.item.start?.getD a.key.span.start
  | k :: _ => k.span.start

theorem assignment_leaves {a : Assignment} (h : assignment f s = some (a, r)) :
    r <:+ s ∧ Begins s r a.start ∧ a.item.start?.isSome := by
  unfold assignment at h
  split at h
  · rename_i ks r' hks
    split at h
    · rename_i key item r'' hkey hitem
      obtain ⟨rfl, rfl⟩ := Prod.mk.inj (Option.some.inj h)
      obtain ⟨hks', k, ks', rfl, hk⟩ := keyPathOf_leaves _ hks
      obtain ⟨hvalue, hstart⟩ := hf hitem
      have hr' : dropSpaces r' <:+ s :=
        (dropSpaces_suffix r').trans ((List.suffix_cons '=' r').trans hks')
      refine ⟨hvalue.trans hr', ?_, by rw [hstart]; rfl⟩
      rcases ks' with _ | ⟨k', ks'⟩
      · rw [Assignment.start, List.dropLast_singleton, hstart]
        exact ⟨hvalue.length_le, hr'.length_le⟩
      · exact hk.mono List.suffix_rfl (hvalue.trans
          ((dropSpaces_suffix r').trans (List.suffix_cons '=' r')))
    · cases h
  · cases h

theorem assignments_leaves : ∀ n, Leaves (assignments f n)
  | 0 => nofun
  | n + 1 => fun s as r h => by
    rw [assignments] at h
    split at h
    · cases h
    · rename_i a r' ha
      have hr' : dropSpaces r' <:+ s := (dropSpaces_suffix r').trans (assignment_leaves hf ha).1
      split at h
      · rename_i r'' heq
        obtain rfl := (Prod.mk.inj (Option.some.inj h)).2
        exact (List.suffix_cons '}' r'').trans (heq ▸ hr')
      · rename_i r'' heq
        obtain ⟨⟨as', r₁⟩, has, hpair⟩ := Option.map_eq_some_iff.1 h
        obtain rfl := (Prod.mk.inj hpair).2
        exact (assignments_leaves n has).trans ((List.suffix_cons ',' r'').trans (heq ▸ hr'))
      · cases h

end Items

/-- A change of a table after which the table begins where it did. -/
def Stays (f : Origin → Table → Option (Origin × Table)) : Prop :=
  ∀ ⦃o : Origin⦄ ⦃t : Table⦄ ⦃o' : Origin⦄ ⦃t' : Table⦄, f o t = some (o', t') →
    o'.start? = o.start?

theorem alter_stays (made : Origin) {f : Origin → Table → Option (Origin × Table)} (hf : Stays f) :
    ∀ path, Stays (Table.alter made f path)
  | [] => hf
  | k :: path => fun o t o' t' h => by
    rw [Table.alter] at h
    split at h
    · obtain ⟨⟨o₁, inner⟩, -, heq⟩ := Option.bind_eq_some_iff.1 h
      rw [(Prod.mk.inj (Option.some.inj heq)).1]
    · split at h
      · cases h
      · obtain ⟨⟨o₁, inner⟩, -, heq⟩ := Option.bind_eq_some_iff.1 h
        rw [(Prod.mk.inj (Option.some.inj heq)).1]
    · split at h
      · cases h
      · obtain ⟨changed, -, heq⟩ := Option.bind_eq_some_iff.1 h
        rw [(Prod.mk.inj (Option.some.inj heq)).1]
    · cases h

theorem assign_stays (path : List Key) (key : Key) (item : Item) :
    Stays (Table.assign path key item) := by
  refine alter_stays .dotted (fun o t o' t' h => ?_) path
  split_ifs at h
  rw [(Prod.mk.inj (Option.some.inj h)).1]

theorem assignAll_stays : ∀ as : List Assignment, Stays (assignAll as)
  | [] => fun _ _ _ _ h => by rw [(Prod.mk.inj (Option.some.inj h)).1]
  | a :: as => fun o t o' t' h => by
    obtain ⟨⟨o₁, t₁⟩, ha, has⟩ := Option.bind_eq_some_iff.1 h
    rw [assignAll_stays as has, assign_stays a.path a.key a.item ha]

theorem inlineTable_leaves {f : Reader Item} (hf : ReadsItems f) (start : Nat) {i : Item}
    (h : inlineTable f start s = some (i, r)) : r <:+ s ∧ i.start? = some start := by
  unfold inlineTable at h
  split at h
  · rename_i r' heq
    obtain ⟨rfl, rfl⟩ := Prod.mk.inj (Option.some.inj h)
    exact ⟨(List.suffix_cons '}' r').trans (heq ▸ dropSpaces_suffix s), rfl⟩
  · split at h
    · cases h
    · rename_i as r' has
      obtain ⟨⟨o, t⟩, hall, heq⟩ := Option.map_eq_some_iff.1 h
      obtain ⟨rfl, rfl⟩ := Prod.mk.inj heq
      exact ⟨(assignments_leaves hf _ has).trans (dropSpaces_suffix s), assignAll_stays as hall⟩

theorem scalarItem_readsItems : ReadsItems scalarItem := by
  intro s i r h
  obtain ⟨⟨x, r'⟩, hx, heq⟩ := Option.map_eq_some_iff.1 h
  obtain ⟨rfl, rfl⟩ := Prod.mk.inj heq
  exact ⟨scalar_leaves hx, rfl⟩

theorem value_readsItems : ∀ depth, ReadsItems (value depth)
  | 0 => scalarItem_readsItems
  | depth + 1 => fun s i r h => by
    unfold value at h
    split at h
    · obtain ⟨hr, hi⟩ := array_leaves (value_readsItems depth) _ h
      exact ⟨hr.trans (List.suffix_cons _ _), hi⟩
    · obtain ⟨hr, hi⟩ := inlineTable_leaves (value_readsItems depth) _ h
      exact ⟨hr.trans (List.suffix_cons _ _), hi⟩
    · exact scalarItem_readsItems h

/-! ### Statements -/

theorem headerPath_leaves {path : List Key} {key : Key}
    (h : headerPath s = some ((path, key), r)) :
    r <:+ s ∧ ∀ k ∈ path.head?, Begins s r k.span.start := by
  unfold headerPath at h
  split at h
  · rename_i ks r' hks
    obtain ⟨last, -, heq⟩ := Option.map_eq_some_iff.1 h
    obtain ⟨hpath, rfl⟩ := Prod.mk.inj heq
    obtain ⟨rfl, rfl⟩ := Prod.mk.inj hpath
    obtain ⟨hr, k, ks', rfl, hk⟩ := keyPathOf_leaves _ hks
    have hr' := List.suffix_cons ']' r'
    refine ⟨hr'.trans hr, fun k' hk' => ?_⟩
    rcases ks' with _ | ⟨k₂, ks'⟩
    · cases hk'
    · obtain rfl : k = k' := Option.some.inj hk'
      exact hk.mono List.suffix_rfl hr'
  · cases h

/-- Where that begins in a table which a statement puts there: the text of a value or of a header,
or, where it only makes a table for what is below it, the key of that table. -/
def Statement.start : Statement → Nat
  | .assign a => a.start
  | .openTable path _ span | .appendTable path _ span =>
    match path with
    | [] => span.start
    | k :: _ => k.span.start

/-- What a statement assigns has a text of its own. -/
def Statement.IsLocated : Statement → Prop
  | .assign a => a.item.start?.isSome
  | .openTable _ _ _ | .appendTable _ _ _ => True

theorem statement_leaves {st : Statement} (h : statement s = some (st, r)) :
    r <:+ s ∧ Begins s r st.start ∧ st.IsLocated := by
  unfold statement at h
  split at h
  · rename_i s'
    split at h
    · rename_i path key r' hpath
      obtain ⟨rfl, rfl⟩ := Prod.mk.inj (Option.some.inj h)
      obtain ⟨hr, hk⟩ := headerPath_leaves hpath
      have hs : s' <:+ '[' :: '[' :: s' := ⟨['[', '['], rfl⟩
      have hr' := (List.suffix_cons ']' r').trans (hr.trans hs)
      refine ⟨hr', ?_, trivial⟩
      rcases path with _ | ⟨k, path⟩
      · exact ⟨hr'.length_le, Nat.le_refl _⟩
      · exact (hk k rfl).mono hs (List.suffix_cons ']' r')
    · cases h
  · rename_i s' _
    obtain ⟨⟨⟨path, key⟩, r'⟩, hpath, heq⟩ := Option.map_eq_some_iff.1 h
    obtain ⟨rfl, rfl⟩ := Prod.mk.inj heq
    obtain ⟨hr, hk⟩ := headerPath_leaves hpath
    have hr' := hr.trans (List.suffix_cons '[' s')
    refine ⟨hr', ?_, trivial⟩
    rcases path with _ | ⟨k, path⟩
    · exact ⟨hr'.length_le, Nat.le_refl _⟩
    · exact (hk k rfl).mono (List.suffix_cons '[' s') List.suffix_rfl
  · obtain ⟨⟨a, r'⟩, ha, heq⟩ := Option.map_eq_some_iff.1 h
    obtain ⟨rfl, rfl⟩ := Prod.mk.inj heq
    exact assignment_leaves (value_readsItems _) ha

theorem statementsOf_nil : ∀ {n : Nat} {sts : List Statement},
    statementsOf n [] = some sts → sts = []
  | 0, _, h => nomatch h
  | _ + 1, _, h => (Option.some.inj h).symm

/-- What later statements put into tables begins behind what earlier ones do. -/
theorem pairwise_start : ∀ (n : Nat) {s : List Char} {sts : List Statement},
    statementsOf n s = some sts →
      sts.Pairwise (fun a b => b.start < a.start) ∧
        ∀ st ∈ sts, st.start ≤ s.length ∧ st.IsLocated
  | 0, _, _, h => nomatch h
  | n + 1, s, sts, h => by
    have hspaces := (dropSpaces_suffix s).length_le
    rw [statementsOf] at h
    split at h
    · obtain rfl := Option.some.inj h
      exact ⟨.nil, nofun⟩
    · split at h
      · rename_i r hr
        obtain ⟨hsorted, hbound⟩ := pairwise_start n h
        have hle := Nat.le_trans (lineEnd?_suffix hr).1.length_le hspaces
        exact ⟨hsorted, fun st hst => (hbound st hst).imp (Nat.le_trans · hle) id⟩
      · split at h
        · cases h
        · rename_i st r hst
          split at h
          · cases h
          · rename_i r' hr'
            obtain ⟨sts', hsts, rfl⟩ := Option.map_eq_some_iff.1 h
            obtain ⟨hsorted, hbound⟩ := pairwise_start n hsts
            obtain ⟨-, hbegins, hlocated⟩ := statement_leaves hst
            obtain ⟨hsuffix, hend⟩ := lineEnd?_suffix hr'
            have hlater : ∀ st' ∈ sts', st'.start < st.start := by
              intro st' hst'
              -- A line may leave no less than it was given only at the end of the text.
              rcases hend with rfl | hlt
              · rw [statementsOf_nil hsts] at hst'
                cases hst'
              · have hle := (hbound st' hst').1
                have hle' := hbegins.1
                omega
            have hfirst : st.start ≤ s.length := Nat.le_trans hbegins.2 hspaces
            refine ⟨List.pairwise_cons.2 ⟨hlater, hsorted⟩,
              List.forall_mem_cons.2 ⟨⟨hfirst, hlocated⟩, fun st' hst' => ?_⟩⟩
            have hlt := hlater st' hst'
            exact ⟨by omega, (hbound st' hst').2⟩

end Texts

end Switchboard.Toml
