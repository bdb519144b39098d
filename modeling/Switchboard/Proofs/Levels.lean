import Mathlib.Tactic.Common
import Switchboard.Level.Datum

/-!
# Levels that are read

The known levels are the six that have a name, and each is found by its name. A level that is read,
be it from a name or from a datum, is always one of them: a name that is none of the six is refused,
and so is a number beyond them.
-/

namespace Switchboard

/-- Where an error is only reworded, the result is the same. -/
theorem eq_ok_of_mapError {α ε ε' : Type} {f : ε → ε'} :
    ∀ {x : Except ε α} {a : α}, x.mapError f = .ok a → x = .ok a
  | .ok _, _, h => congrArg Except.ok (Except.ok.inj h)
  | .error _, _, h => nomatch h

namespace Level

theorem eq_of_toInt {l m : Level} (h : l.raw.toInt = m.raw.toInt) : l = m :=
  congrArg Level.mk (Int8.toInt_inj.1 h)

theorem name?_eq_none_iff {l : Level} : l.name? = none ↔ l.isKnown = false := by
  rw [← Bool.not_eq_true, isKnown_iff]
  unfold name?
  split
  all_goals simp_all
  omega

theorem eq_of_isKnown {l : Level} (h : l.isKnown = true) :
    l = debug ∨ l = verbose ∨ l = info ∨ l = warning ∨ l = error ∨ l = off := by
  have hn := isKnown_iff.1 h
  by_contra hne
  simp only [not_or] at hne
  obtain ⟨h0, h1, h2, h3, h4, h5⟩ := hne
  have h0 : l.raw.toInt ≠ 0 := fun hl => h0 (eq_of_toInt hl)
  have h1 : l.raw.toInt ≠ 1 := fun hl => h1 (eq_of_toInt hl)
  have h2 : l.raw.toInt ≠ 2 := fun hl => h2 (eq_of_toInt hl)
  have h3 : l.raw.toInt ≠ 3 := fun hl => h3 (eq_of_toInt hl)
  have h4 : l.raw.toInt ≠ 4 := fun hl => h4 (eq_of_toInt hl)
  have h5 : l.raw.toInt ≠ 5 := fun hl => h5 (eq_of_toInt hl)
  omega

theorem name?_of_isKnown {l : Level} (hl : l.isKnown = true) :
    ∃ name, l.name? = some name ∧ l.display = name := by
  rcases hn : l.name? with _ | name
  · rw [name?_eq_none_iff.1 hn] at hl
    cases hl
  · exact ⟨name, rfl, by simp only [display, hn]⟩

/-- A level is found by its name. -/
theorem parse_of_name? {l : Level} {name : String} (h : l.name? = some name) :
    parse name = .ok l := by
  have hk : l.isKnown = true := by
    rw [← Bool.not_eq_false, ← name?_eq_none_iff, h]
    exact nofun
  rcases eq_of_isKnown hk with rfl | rfl | rfl | rfl | rfl | rfl
  all_goals
    obtain rfl := Option.some.inj h
    rfl

theorem ofInt?_raw (l : Level) : ofInt? l.raw.toInt = some l := by
  rw [ofInt?, if_pos ⟨l.raw.minValue_le_toInt, l.raw.toInt_le⟩, Int8.ofInt_toInt]

/-! ### What is read is known -/

theorem mem_names_of_parse {s : String} {l : Level} (h : parse s = .ok l) :
    (fold s, l) ∈ names := by
  unfold parse at h
  split at h
  · rename_i m hm
    obtain rfl := Except.ok.inj h
    obtain ⟨before, after, hnames, -⟩ := List.lookup_eq_some_iff.1 hm
    rw [hnames]
    exact List.mem_append_right before List.mem_cons_self
  · cases h

theorem isKnown_of_parse {s : String} {l : Level} (h : parse s = .ok l) : l.isKnown = true := by
  have hall : ∀ e ∈ names, e.2.isKnown = true := by decide
  exact hall (fold s, l) (mem_names_of_parse h)

theorem isKnown_of_ofRaw {raw : Int8} {l : Level} (h : ofRaw raw = .ok l) : l.isKnown = true := by
  unfold ofRaw at h
  split_ifs at h with hk
  obtain rfl := Except.ok.inj h
  exact hk

theorem isKnown_of_ofDatum {d : Datum} {l : Level} (h : ofDatum d = .ok l) : l.isKnown = true := by
  cases d with
  | text s => exact isKnown_of_parse (eq_ok_of_mapError h)
  | integer n =>
    simp only [ofDatum] at h
    split at h
    · exact isKnown_of_ofRaw (eq_ok_of_mapError h)
    · cases h
  | _ => cases h

end Level

end Switchboard
