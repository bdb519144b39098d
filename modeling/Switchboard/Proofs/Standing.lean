import Mathlib.Data.List.Nodup
import Switchboard.Proofs.Remainders

/-!
# Where entries stand

The entries of a document's table differ in their keys and stand in the order in which they begin in
the text (`ordered_of_parse?`). An entry begins where its text does, or at its key if it has no text
of its own: that is its `Mark`. A statement changes no mark, or it makes one new entry at the end of
the table, and every mark before belongs to an earlier statement. Only a table that the headers of
tables below it have implied leaves its place, for the end of the table, when it is given a header
of its own; it begins there from then on.
-/

namespace Switchboard.Toml

def Item.isTables : Item → Bool
  | .tables _ => true
  | _ => false

/-- What says where an entry begins. -/
structure Mark where
  name : List Char
  /-- Where the key begins. -/
  key : Nat
  /-- Where the text of the item begins, if it has one. -/
  own? : Option Nat
  isTables : Bool

namespace Mark

def of (e : Key × Item) : Mark :=
  ⟨e.1.name, e.1.span.start, e.2.start?, e.2.isTables⟩

def start (m : Mark) : Nat :=
  m.own?.getD m.key

end Mark

def Table.marks (t : Table) : List Mark :=
  List.map Mark.of t

/-- Keys differ, and what stands first begins first. An array of tables has a text of its own. -/
structure Ordered (ms : List Mark) : Prop where
  names : (ms.map Mark.name).Nodup
  starts : ms.Pairwise fun a b => b.start < a.start
  located : ∀ m ∈ ms, m.isTables = true → m.own?.isSome

theorem Ordered.tail {m : Mark} {ms : List Mark} (h : Ordered (m :: ms)) : Ordered ms :=
  ⟨(List.nodup_cons.1 h.names).2, h.starts.of_cons,
    fun m' hm => h.located m' (List.mem_cons_of_mem m hm)⟩

namespace Table

variable {t : Table} {name : List Char} {i i' : Item}

/-! ### Lookup -/

theorem mem_of_get? (h : t.get? name = some i) : ∃ k, (k, i) ∈ t ∧ k.name = name := by
  obtain ⟨⟨k, i'⟩, hfind, rfl⟩ := Option.map_eq_some_iff.1 h
  exact ⟨k, List.mem_of_find?_eq_some hfind, by simpa using List.find?_some hfind⟩

theorem get?_eq_none_iff : t.get? name = none ↔ ∀ m ∈ t.marks, m.name ≠ name := by
  simp only [get?, marks, Option.map_eq_none_iff, List.find?_eq_none, List.forall_mem_map,
    beq_iff_eq]
  exact Iff.rfl

theorem get?_ne_none_iff : t.get? name ≠ none ↔ ∃ m ∈ t.marks, m.name = name := by
  rw [ne_eq, get?_eq_none_iff]
  push Not
  exact Iff.rfl

theorem get?_cons_of_eq {k : Key} (h : k.name = name) (es : Table) :
    Table.get? ((k, i) :: es) name = some i := by
  rw [get?, List.find?_cons_of_pos (by simpa using h)]
  rfl

theorem get?_cons_of_ne {k : Key} (h : k.name ≠ name) (es : Table) :
    Table.get? ((k, i) :: es) name = es.get? name := by
  rw [get?, List.find?_cons_of_neg (by simpa using h)]
  rfl

theorem nodup_names (h : Ordered t.marks) : (t.map fun e => e.1.name).Nodup := by
  have hn := h.names
  rw [marks, List.map_map] at hn
  exact hn

theorem eq_of_mem (h : Ordered t.marks) {a b : Key × Item} (ha : a ∈ t) (hb : b ∈ t)
    (hab : a.1.name = b.1.name) : a = b :=
  List.inj_on_of_nodup_map (nodup_names h) ha hb hab

/-- What stands under a key is found by it. -/
theorem get?_of_mem (h : Ordered t.marks) {e : Key × Item} (he : e ∈ t) :
    t.get? e.1.name = some e.2 := by
  rcases hg : t.get? e.1.name with _ | i
  · exact absurd rfl (get?_eq_none_iff.1 hg _ (List.mem_map_of_mem he))
  · obtain ⟨k, hk, hname⟩ := mem_of_get? hg
    rw [eq_of_mem h he hk hname.symm]

/-! ### Changes -/

/-- What one statement does to the marks: nothing where the name is in the table, unless it leads to
a table that leaves its place, and else one mark more. -/
def Puts (t t' : Table) (name : List Char) (p : Nat) : Prop :=
  (t.get? name ≠ none ∧ t'.marks = t.marks) ∨
    ∃ m : Mark, m.name = name ∧ m.start = p ∧ (m.isTables = true → m.own?.isSome) ∧
      t'.marks = t.marks.filter (·.name != name) ++ [m]

theorem marks_append (t : Table) (e : Key × Item) : marks (t ++ [e]) = t.marks ++ [Mark.of e] :=
  List.map_append ..

theorem marks_erase (t : Table) (name : List Char) :
    (t.erase name).marks = t.marks.filter (·.name != name) := by
  rw [marks, marks, List.filter_map]
  rfl

theorem filter_marks_of_get?_eq_none (h : t.get? name = none) :
    t.marks.filter (·.name != name) = t.marks :=
  List.filter_eq_self.2 fun m hm => by simpa using get?_eq_none_iff.1 h m hm

theorem puts_append {k : Key} {p : Nat} (h : t.get? k.name = none)
    (hp : i.start?.getD k.span.start = p) (hi : i.isTables = true → i.start?.isSome) :
    Puts t (t ++ [(k, i)]) k.name p :=
  .inr ⟨Mark.of (k, i), rfl, hp, hi, by rw [marks_append, filter_marks_of_get?_eq_none h]⟩

/-- An item may be replaced by one that begins where it does. -/
theorem marks_replace (ho : Ordered t.marks) (h : t.get? name = some i)
    (hs : i'.start? = i.start?) (ht : i'.isTables = i.isTables) :
    (t.replace name i').marks = t.marks := by
  obtain ⟨k, hk, rfl⟩ := mem_of_get? h
  rw [marks, replace, List.map_map]
  refine List.map_congr_left fun e he => ?_
  by_cases hn : e.1.name = k.name
  · obtain rfl := eq_of_mem ho he hk hn
    simp only [Function.comp_apply, Mark.of, beq_self_eq_true, if_true, hs, ht]
  · simp only [Function.comp_apply, beq_eq_false_iff_ne.2 hn, Bool.false_eq_true, if_false]

theorem puts_replace (ho : Ordered t.marks) (h : t.get? name = some i)
    (hs : i'.start? = i.start?) (ht : i'.isTables = i.isTables) (p : Nat) :
    Puts t (t.replace name i') name p :=
  .inl ⟨by rw [h]; exact Option.some_ne_none i, marks_replace ho h hs ht⟩

/-- An array of tables begins where its first element does, if the last has a text as well. -/
theorem start?_tables (es : List (Origin × Table)) :
    (Item.tables es).start? =
      (es.getLast?.bind (·.1.start?)).bind fun _ => es.head?.bind (·.1.start?) := by
  have hspan : ∀ e : Option (Origin × Table),
      e.bind (·.1.start?) = (e.bind (·.1.span?)).map (·.start) := by
    rintro (_ | e)
    · rfl
    · rfl
  rw [hspan, hspan, Item.start?, Item.span?]
  rcases es.head?.bind (·.1.span?) with _ | a
  · rcases es.getLast?.bind (·.1.span?) with _ | b <;> rfl
  · rcases es.getLast?.bind (·.1.span?) with _ | b <;> rfl

theorem start?_tables_concat {es : List (Origin × Table)} {e e' : Origin × Table}
    (h : es.getLast? = some e) (he : e'.1.start? = e.1.start?) :
    (Item.tables (es.dropLast ++ [e'])).start? = (Item.tables es).start? := by
  obtain ⟨init, rfl⟩ := List.getLast?_eq_some_iff.1 h
  rw [List.dropLast_concat, start?_tables, start?_tables, List.getLast?_concat,
    List.getLast?_concat, Option.bind_some, Option.bind_some, he]
  rcases init with _ | ⟨a, init⟩
  · rw [List.nil_append, List.nil_append, List.head?_cons, List.head?_cons, Option.bind_some,
      Option.bind_some, he]
  · rfl

theorem start?_tables_append {es : List (Origin × Table)} (span : Span)
    (h : (Item.tables es).start?.isSome) :
    (Item.tables (es ++ [(.header span, [])])).start? = (Item.tables es).start? := by
  rw [start?_tables] at h
  rw [start?_tables, start?_tables, List.getLast?_concat]
  rcases es with _ | ⟨a, es⟩
  · cases h
  · obtain ⟨p, hp⟩ := Option.isSome_iff_exists.1 h
    obtain ⟨q, hq, -⟩ := Option.bind_eq_some_iff.1 hp
    rw [hq]
    rfl

/-- A path changes the table that its first key leads to, or makes one there. -/
theorem marks_alter {made : Origin} {f : Origin → Table → Option (Origin × Table)}
    (hm : made.start? = none) (hf : Stays f) {k : Key} {path : List Key} {o o' : Origin}
    {t t' : Table} (ho : Ordered t.marks) (h : alter made f (k :: path) o t = some (o', t')) :
    (t.get? k.name ≠ none → t'.marks = t.marks) ∧ Puts t t' k.name k.span.start := by
  rw [alter] at h
  split at h
  · rename_i hg
    obtain ⟨⟨o₁, inner⟩, hinner, heq⟩ := Option.bind_eq_some_iff.1 h
    obtain rfl := (Prod.mk.inj (Option.some.inj heq)).2
    have hs : (Item.table o₁ inner).start? = none :=
      (alter_stays made hf path hinner).trans hm
    refine ⟨fun hne => absurd hg hne, puts_append hg ?_ (by rintro ⟨⟩)⟩
    rw [hs]
    rfl
  · rename_i o₁ inner hg
    split at h
    · cases h
    · obtain ⟨⟨o₂, inner'⟩, hinner, heq⟩ := Option.bind_eq_some_iff.1 h
      obtain rfl := (Prod.mk.inj (Option.some.inj heq)).2
      have hs : (Item.table o₂ inner').start? = (Item.table o₁ inner).start? :=
        alter_stays made hf path hinner
      exact ⟨fun _ => marks_replace ho hg hs rfl, puts_replace ho hg hs rfl _⟩
  · rename_i es hg
    split at h
    · cases h
    · rename_i o₁ last hlast
      obtain ⟨changed, hchanged, heq⟩ := Option.bind_eq_some_iff.1 h
      obtain rfl := (Prod.mk.inj (Option.some.inj heq)).2
      have hs : (Item.tables (es.dropLast ++ [changed])).start? = (Item.tables es).start? :=
        start?_tables_concat hlast (alter_stays made hf path hchanged)
      exact ⟨fun _ => marks_replace ho hg hs rfl, puts_replace ho hg hs rfl _⟩
  · cases h

section Puts

variable {key : Key} {span : Span} {o o' : Origin} {t' : Table}

theorem puts_open? (h : open? key span o t = some (o', t')) :
    Puts t t' key.name span.start := by
  unfold open? at h
  split at h
  · rename_i hg
    obtain rfl := (Prod.mk.inj (Option.some.inj h)).2
    exact puts_append hg rfl nofun
  · rename_i inner hg
    obtain rfl := (Prod.mk.inj (Option.some.inj h)).2
    exact .inr ⟨Mark.of (key, .table (.header span) inner), rfl, rfl, nofun,
      by rw [marks_append, marks_erase]⟩
  · cases h

theorem puts_append? (ho : Ordered t.marks) (h : append? key span o t = some (o', t')) :
    Puts t t' key.name span.start := by
  unfold append? at h
  split at h
  · rename_i hg
    obtain rfl := (Prod.mk.inj (Option.some.inj h)).2
    exact puts_append hg rfl fun _ => rfl
  · rename_i es hg
    obtain rfl := (Prod.mk.inj (Option.some.inj h)).2
    obtain ⟨k, hk, -⟩ := mem_of_get? hg
    have hlocated := ho.located _ (List.mem_map_of_mem hk) rfl
    exact puts_replace ho hg (start?_tables_append span hlocated) rfl _
  · cases h

/-- The key of the table at hand that a path leads through first. -/
def firstKey (path : List Key) (key : Key) : Key :=
  path.head?.getD key

theorem puts_assign {a : Assignment} (ho : Ordered t.marks) (hi : a.item.start?.isSome)
    (h : assign a.path a.key a.item o t = some (o', t')) :
    Puts t t' (firstKey a.path a.key).name a.start := by
  obtain ⟨path, key, item⟩ := a
  rcases path with _ | ⟨k, path⟩
  · simp only [assign, alter] at h
    split_ifs at h with hg
    obtain rfl := (Prod.mk.inj (Option.some.inj h)).2
    have hg' : t.get? key.name = none := by
      rw [Bool.or_eq_true, not_or] at hg
      simpa using hg.2
    exact puts_append hg' rfl fun _ => hi
  · have hm : Origin.dotted.start? = none := rfl
    refine (marks_alter hm (fun o t o' t' h => ?_) ho h).2
    split_ifs at h
    rw [(Prod.mk.inj (Option.some.inj h)).1]

end Puts

/-! ### What a put keeps -/

section Puts

variable {t' : Table} {p : Nat} (h : Puts t t' name p)

include h

theorem Puts.mem_marks {m : Mark} (hm : m ∈ t'.marks) : m ∈ t.marks ∨ m.start = p := by
  obtain ⟨-, hmarks⟩ | ⟨m', -, hp, -, hmarks⟩ := h
  · exact .inl (hmarks ▸ hm)
  · rw [hmarks, List.mem_append, List.mem_singleton] at hm
    obtain hm | rfl := hm
    · exact .inl (List.mem_of_mem_filter hm)
    · exact .inr hp

theorem Puts.get?_ne_none : t'.get? name ≠ none := by
  obtain ⟨hne, hmarks⟩ | ⟨m, hname, -, -, hmarks⟩ := h
  · rwa [get?_ne_none_iff, hmarks, ← get?_ne_none_iff]
  · rw [get?_ne_none_iff, hmarks]
    exact ⟨m, List.mem_append_right _ (List.mem_singleton_self m), hname⟩

/-- No name gets lost. -/
theorem Puts.get?_ne_none_of {other : List Char} (ho : t.get? other ≠ none) :
    t'.get? other ≠ none := by
  by_cases heq : other = name
  · rw [heq]
    exact h.get?_ne_none
  · obtain ⟨-, hmarks⟩ | ⟨m, -, -, -, hmarks⟩ := h
    · rwa [get?_ne_none_iff, hmarks, ← get?_ne_none_iff]
    · obtain ⟨m', hm', rfl⟩ := get?_ne_none_iff.1 ho
      rw [get?_ne_none_iff, hmarks]
      exact ⟨m', List.mem_append_left _ (List.mem_filter.2 ⟨hm', by simpa using heq⟩), rfl⟩

/-- What is put behind everything in a table leaves it ordered. -/
theorem Puts.ordered (ho : Ordered t.marks) (hp : ∀ m ∈ t.marks, p < m.start) :
    Ordered t'.marks := by
  obtain ⟨-, hmarks⟩ | ⟨m, rfl, rfl, hm, hmarks⟩ := h
  · rwa [hmarks]
  rw [hmarks]
  refine ⟨?_, ?_, ?_⟩
  · rw [List.map_append, List.nodup_append]
    refine ⟨ho.names.sublist (List.filter_sublist.map _), List.nodup_singleton _, ?_⟩
    rintro a ha b hb rfl
    obtain ⟨m', hm', rfl⟩ := List.mem_map.1 ha
    have hne := (List.mem_filter.1 hm').2
    rw [List.map_singleton, List.mem_singleton] at hb
    simp [hb] at hne
  · refine List.pairwise_append.2 ⟨ho.starts.sublist List.filter_sublist,
      List.pairwise_singleton _ _, fun a ha b hb => ?_⟩
    obtain rfl := List.mem_singleton.1 hb
    exact hp a (List.mem_of_mem_filter ha)
  · intro m' hm' ht
    rcases List.mem_append.1 hm' with hm' | hm'
    · exact ho.located m' (List.mem_of_mem_filter hm') ht
    · obtain rfl := List.mem_singleton.1 hm'
      exact hm ht

end Puts

end Table

/-! ### Documents -/

namespace Draft

/-- The table of a draft is ordered, and has an entry that the header in force leads through. -/
structure Sound (d : Draft) : Prop where
  ordered : Ordered d.root.marks
  here : ∀ k ∈ d.here.head?, d.root.get? k.name ≠ none

variable {d d' : Draft}

/-- A header makes an entry of the table, or leads through one. -/
theorem puts_alter {path : List Key} {key : Key} {span : Span}
    {f : Origin → Table → Option (Origin × Table)} {root : Table} (hd : d.Sound) (hf : Stays f)
    (hroot : ∀ {o o' t'}, f o d.root = some (o', t') → Table.Puts d.root t' key.name span.start)
    (h : d.alter path f = some root) :
    Table.Puts d.root root (Table.firstKey path key).name
      (Statement.start (.openTable path key span)) := by
  obtain ⟨⟨o', t'⟩, halter, rfl⟩ := Option.map_eq_some_iff.1 h
  rcases path with _ | ⟨k, path⟩
  · exact hroot halter
  · have hm : Origin.implied.start? = none := rfl
    exact (Table.marks_alter hm hf hd.ordered halter).2

theorem sound_of_puts {path : List Key} {key : Key} {root : Table} {p : Nat} (hd : d.Sound)
    (h : Table.Puts d.root root (Table.firstKey path key).name p)
    (hp : ∀ m ∈ d.root.marks, p < m.start) : Sound ⟨root, path ++ [key]⟩ := by
  refine ⟨h.ordered hd.ordered hp, fun k hk => ?_⟩
  have hkey : Table.firstKey path key = k := by
    rcases path with _ | ⟨k', path⟩ <;> exact Option.some.inj hk
  rw [← hkey]
  exact h.get?_ne_none

theorem start?_extend (o : Origin) (span : Span) : (o.extend span).start? = o.start? := by
  cases o <;> rfl

/-- An assignment below a header changes what the header leads through, and no mark. -/
theorem puts_assign {a : Assignment} (hd : d.Sound) (ha : a.item.start?.isSome)
    (h : d.assign a = some d') :
    d'.here = d.here ∧ ∃ name, Table.Puts d.root d'.root name a.start := by
  obtain ⟨root, hroot, rfl⟩ := Option.map_eq_some_iff.1 h
  obtain ⟨⟨o', t'⟩, halter, rfl⟩ := Option.map_eq_some_iff.1 hroot
  refine ⟨rfl, ?_⟩
  obtain ⟨root, here⟩ := d
  rcases here with _ | ⟨k, path⟩
  · exact ⟨_, Table.puts_assign hd.ordered ha halter⟩
  · have hm : Origin.implied.start? = none := rfl
    have hne := hd.here k rfl
    -- The header has made the entry that its path leads through, so none is made at the end.
    refine ⟨k.name, .inl ⟨hne, (Table.marks_alter hm ?_ hd.ordered halter).1 hne⟩⟩
    intro o t o' t' hput
    rw [assign_stays a.path a.key a.item hput]
    rcases a.item.span? with _ | span
    · rfl
    · exact start?_extend o span

theorem open?_stays (key : Key) (span : Span) : Stays (Table.open? key span) := by
  intro o t o' t' h
  unfold Table.open? at h
  split at h
  · rw [(Prod.mk.inj (Option.some.inj h)).1]
  · rw [(Prod.mk.inj (Option.some.inj h)).1]
  · cases h

theorem append?_stays (key : Key) (span : Span) : Stays (Table.append? key span) := by
  intro o t o' t' h
  unfold Table.append? at h
  split at h
  · rw [(Prod.mk.inj (Option.some.inj h)).1]
  · rw [(Prod.mk.inj (Option.some.inj h)).1]
  · cases h

/-- A statement that begins behind all entries keeps a draft sound, and makes at most an entry that
begins where it does. -/
theorem Sound.add {st : Statement} (hd : d.Sound) (hst : st.IsLocated)
    (hp : ∀ m ∈ d.root.marks, st.start < m.start) (h : d.add st = some d') :
    d'.Sound ∧ ∀ m ∈ d'.root.marks, m ∈ d.root.marks ∨ m.start = st.start := by
  cases st with
  | assign a =>
    obtain ⟨hhere, name, hputs⟩ := puts_assign hd hst h
    refine ⟨⟨hputs.ordered hd.ordered hp, fun k hk => ?_⟩, fun m => hputs.mem_marks⟩
    rw [hhere] at hk
    exact hputs.get?_ne_none_of (hd.here k hk)
  | openTable path key span =>
    obtain ⟨root, hroot, rfl⟩ := Option.map_eq_some_iff.1 h
    have hputs : Table.Puts d.root root (Table.firstKey path key).name _ :=
      puts_alter hd (open?_stays key span) Table.puts_open? hroot
    exact ⟨sound_of_puts hd hputs hp, fun m => hputs.mem_marks⟩
  | appendTable path key span =>
    obtain ⟨root, hroot, rfl⟩ := Option.map_eq_some_iff.1 h
    have hputs := puts_alter hd (append?_stays key span) (Table.puts_append? hd.ordered) hroot
    exact ⟨sound_of_puts hd hputs hp, fun m => hputs.mem_marks⟩

/-- Statements that begin one behind the other keep a draft sound. -/
theorem Sound.foldlM : ∀ (sts : List Statement) {d d' : Draft}, d.Sound →
    sts.Pairwise (fun a b => b.start < a.start) → (∀ st ∈ sts, st.IsLocated) →
    (∀ m ∈ d.root.marks, ∀ st ∈ sts, st.start < m.start) → sts.foldlM Draft.add d = some d' →
    d'.Sound
  | [], _, _, hd, _, _, _, h => Option.some.inj h ▸ hd
  | st :: sts, d, d', hd, hsorted, hloc, hp, h => by
    obtain ⟨hfirst, hsorted⟩ := List.pairwise_cons.1 hsorted
    rw [List.foldlM_cons] at h
    obtain ⟨d₁, hadd, h⟩ := Option.bind_eq_some_iff.1 h
    obtain ⟨hd₁, hmarks⟩ := hd.add (hloc st List.mem_cons_self)
      (fun m hm => hp m hm st List.mem_cons_self) hadd
    refine hd₁.foldlM sts hsorted (fun st' hst' => hloc st' (List.mem_cons_of_mem _ hst'))
      (fun m hm st' hst' => ?_) h
    rcases hmarks m hm with hm | hm
    · exact hp m hm st' (List.mem_cons_of_mem _ hst')
    · rw [hm]
      exact hfirst st' hst'

end Draft

/-- The entries of a document differ in their keys, and stand in the order in which they begin. -/
theorem ordered_of_parse? {text : List Char} {t : Table} (h : parse? text = some t) :
    Ordered t.marks := by
  obtain ⟨sts, hsts, ht⟩ := Option.bind_eq_some_iff.1 h
  obtain ⟨d, hd, rfl⟩ := Option.map_eq_some_iff.1 ht
  obtain ⟨hsorted, hbound⟩ := pairwise_start _ hsts
  have hempty : Draft.empty.Sound := ⟨⟨.nil, .nil, nofun⟩, nofun⟩
  exact (hempty.foldlM sts hsorted (fun st hst => (hbound st hst).2) nofun hd).ordered

end Switchboard.Toml
