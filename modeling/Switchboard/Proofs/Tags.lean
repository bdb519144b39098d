import Mathlib.Tactic.Common
import Switchboard.Domains

/-!
# Which domain a handle is tagged as

The domains are looked up one after another, and what a lookup answers for the name of a domain
becomes the handle of that domain, whatever the lookup does besides (`run_ask_noted`). A handle has
the tag of a domain if that domain is the first one that the handle was the answer for
(`tagOf_eq_tag_iff`), and no tag if it is null or was no answer (`tagOf_eq_unknownTag_iff`). So a
domain that was answered by null lends its tag to no handle, and one that shares its handle with an
earlier domain does not either.
-/

namespace Switchboard

namespace Domain

theorem mem_all (d : Domain) : d ∈ all := by
  cases d <;> decide

theorem nodup_all : all.Nodup := by decide

theorem tag_injective {d e : Domain} (h : d.tag = e.tag) : d = e := by
  revert h
  cases d <;> cases e <;> decide

theorem tag_ne_unknownTag (d : Domain) : d.tag ≠ unknownTag := by
  cases d <;> decide

/-- A domain that is looked up before another. -/
def Precedes (d e : Domain) : Prop :=
  all.idxOf d < all.idxOf e

instance (d e : Domain) : Decidable (d.Precedes e) :=
  inferInstanceAs (Decidable (all.idxOf d < all.idxOf e))

theorem idxOf_lt (d : Domain) : all.idxOf d < all.length :=
  List.idxOf_lt_length_iff.2 d.mem_all

end Domain

namespace Domains

/-! ### Looking up -/

section Noted

variable {m : Type → Type} [Monad m]

/-- A lookup that also keeps a record of what it is asked for and what it answers. -/
def noted (lookup : String → m Handle) (name : String) : StateT (List (String × Handle)) m Handle := do
  let handle ← lookup name
  modify (· ++ [(name, handle)])
  return handle

variable [LawfulMonad m]

theorem run_noted (lookup : String → m Handle) (name : String) (log : List (String × Handle)) :
    (noted lookup name).run log = (fun h => (h, log ++ [(name, h)])) <$> lookup name := by
  simp [noted]

/-- Whatever a lookup does, it is asked for every domain once and in order, and its answers are the
handles. -/
theorem run_ask_noted (lookup : String → m Handle) (log : List (String × Handle)) :
    (ask (noted lookup)).run log =
      (fun ds => (ds, log ++ Domain.all.map fun d => (d.name, ds.get d))) <$> ask lookup := by
  simp [ask, run_noted, Domain.all, get]

end Noted

/-! ### Tags -/

theorem isNull_iff {h : Handle} : h.isNull = true ↔ h = .null := beq_iff_eq

/-- A domain that has a handle, while none that is looked up before it has. -/
structure IsFirst (ds : Domains) (h : Handle) (d : Domain) : Prop where
  has : ds.get d = h
  before : ∀ e : Domain, e.Precedes d → ds.get e ≠ h

variable {ds : Domains} {h : Handle} {d : Domain}

theorem find?_eq_some_iff :
    (Domain.all.find? fun d => decide (h = ds.get d)) = some d ↔ ds.IsFirst h d := by
  rw [List.find?_eq_some_iff_getElem]
  constructor
  · rintro ⟨hd, i, hi, rfl, hbefore⟩
    refine ⟨(of_decide_eq_true hd).symm, fun e he heq => ?_⟩
    rw [Domain.Precedes, Domain.nodup_all.idxOf_getElem] at he
    have h := hbefore _ he
    rw [List.getElem_idxOf e.idxOf_lt, heq] at h
    simp at h
  · rintro ⟨hd, hbefore⟩
    refine ⟨decide_eq_true hd.symm, Domain.all.idxOf d, d.idxOf_lt, List.getElem_idxOf _,
      fun j hj => ?_⟩
    have hlen : j < Domain.all.length := Nat.lt_trans hj d.idxOf_lt
    have hne := hbefore Domain.all[j] (by rwa [Domain.Precedes, Domain.nodup_all.idxOf_getElem])
    simpa using hne.symm

theorem tagOf_null (ds : Domains) : ds.tagOf .null = unknownTag := rfl

theorem tagOf_of_ne_null (ds : Domains) (hn : h ≠ .null) :
    ds.tagOf h =
      ((Domain.all.find? fun d => decide (h = ds.get d)).map Domain.tag).getD unknownTag :=
  tagOf_eq_find? ds (Bool.eq_false_iff.2 (mt isNull_iff.1 hn))

theorem tagOf_eq_tag_iff : ds.tagOf h = d.tag ↔ h ≠ .null ∧ ds.IsFirst h d := by
  by_cases hn : h = .null
  · subst hn
    exact iff_of_false (fun ht => d.tag_ne_unknownTag ht.symm) fun h => h.1 rfl
  · rw [tagOf_of_ne_null ds hn, ← find?_eq_some_iff, and_iff_right hn]
    rcases Domain.all.find? fun d => decide (h = ds.get d) with _ | e
    · exact iff_of_false (fun ht => d.tag_ne_unknownTag ht.symm) nofun
    · simp only [Option.map_some, Option.getD_some, Option.some.injEq]
      exact ⟨Domain.tag_injective, congrArg Domain.tag⟩

theorem exists_isFirst (hd : ds.get d = h) : ∃ e, ds.IsFirst h e := by
  rcases hf : Domain.all.find? fun d => decide (h = ds.get d) with _ | e
  · exact absurd (decide_eq_true hd.symm) (List.find?_eq_none.1 hf d d.mem_all)
  · exact ⟨e, find?_eq_some_iff.1 hf⟩

theorem tagOf_eq_unknownTag_iff : ds.tagOf h = unknownTag ↔ h = .null ∨ ∀ d, ds.get d ≠ h := by
  constructor
  · intro ht
    refine or_iff_not_imp_left.2 fun hn d hd => ?_
    obtain ⟨e, he⟩ := exists_isFirst hd
    exact e.tag_ne_unknownTag ((tagOf_eq_tag_iff.2 ⟨hn, he⟩).symm.trans ht)
  · intro hnone
    by_cases hn : h = .null
    · rw [hn, tagOf_null]
    · have hother := hnone.resolve_left hn
      rw [tagOf_of_ne_null ds hn, List.find?_eq_none.2 fun d _ hd =>
        hother d (of_decide_eq_true hd).symm]
      rfl

/-- The domains are looked up once each, in their order, and what is answered decides how handles are
tagged. A handle has no tag if it is null or was no answer. Otherwise it has the tag of the first
domain that it was the answer for. So a domain that was answered by null lends its tag to no handle,
and any other lends it to its own handle unless an earlier domain was answered by the same one. -/
theorem tags_follow_answers {σ : Type} (lookup : String → StateM σ Handle) (s : σ) :
    let ds := ((ask lookup).run s).1
    ((ask (noted lookup)).run []).run s =
        ((ds, Domain.all.map fun d => (d.name, ds.get d)), ((ask lookup).run s).2) ∧
      Domain.all.map Domain.name = ["", "DB", "Query", "Sync", "WS"] ∧
      Domain.all.map Domain.tag = ["def", "db", "query", "sync", "websock"] ∧
      (∀ h, ds.tagOf h = "unkndmn" ↔ h = .null ∨ ∀ d, ds.get d ≠ h) ∧
      (∀ h, h ≠ .null → (∃ d, ds.get d = h) → ∃ d, ds.IsFirst h d ∧ ds.tagOf h = d.tag) ∧
      (∀ h d, ds.tagOf h = d.tag ↔ h ≠ .null ∧ ds.IsFirst h d) ∧
      (∀ d, ds.get d = .null → ∀ h, ds.tagOf h ≠ d.tag) ∧
      ∀ d, ds.get d ≠ .null →
        (ds.tagOf (ds.get d) = d.tag ↔ ∀ e : Domain, e.Precedes d → ds.get e ≠ ds.get d) := by
  intro ds
  refine ⟨?_, rfl, rfl, fun h => tagOf_eq_unknownTag_iff, ?_, fun h d => tagOf_eq_tag_iff, ?_, ?_⟩
  · rw [run_ask_noted]
    rfl
  · rintro h hn ⟨d, hd⟩
    obtain ⟨e, he⟩ := exists_isFirst hd
    exact ⟨e, he, tagOf_eq_tag_iff.2 ⟨hn, he⟩⟩
  · intro d hd h ht
    obtain ⟨hn, hfirst⟩ := tagOf_eq_tag_iff.1 ht
    exact hn (hfirst.has.symm.trans hd)
  · intro d hn
    rw [tagOf_eq_tag_iff, and_iff_right hn]
    exact ⟨IsFirst.before, fun h => ⟨rfl, h⟩⟩

/-- A lookup that counts how often it is asked and gives each handle out twice, the null handle
included. The second domain to get a handle never shows it. -/
theorem second_of_two_domains_is_not_shown :
    let lookup : String → StateM UInt64 Handle := fun _ asked => (⟨asked / 2⟩, asked + 1)
    let ds := ((ask lookup).run 0).1
    (((ask (noted lookup)).run []).run 0).1.2 =
        [("", ⟨0⟩), ("DB", ⟨0⟩), ("Query", ⟨1⟩), ("Sync", ⟨1⟩), ("WS", ⟨2⟩)] ∧
      ds.database = .null ∧ ds.tagOf .null = "unkndmn" ∧ (∀ h, ds.tagOf h ≠ "db") ∧
      ds.sync ≠ .null ∧ ds.tagOf ds.sync ≠ "sync" ∧ ds.IsFirst ds.sync .query ∧
      ds.tagOf ds.sync = "query" := by
  intro lookup ds
  obtain ⟨hasked, -, -, hnone, -, htag, hnull, hown⟩ := tags_follow_answers lookup 0
  have hdatabase : ds.get .database = .null := by decide
  have hsync : ds.get .sync ≠ .null := by decide
  have hquery : ds.IsFirst ds.sync .query := ⟨by decide, fun e => by cases e <;> decide⟩
  refine ⟨?_, hdatabase, (hnone .null).2 (.inl rfl), hnull .database hdatabase, hsync, fun h => ?_,
    hquery, (htag _ .query).2 ⟨hsync, hquery⟩⟩
  · rw [hasked]
    rfl
  · exact (hown .sync hsync).1 h .query (by decide) (by decide)

end Domains

end Switchboard
