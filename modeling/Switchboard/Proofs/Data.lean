import Switchboard.Proofs.Levels

/-!
# Which data stand for levels

A datum stands for a level if it is a text that is read as a name of the level, or the number of a
known level (`ofDatum_eq_ok_iff`). What is said of any other datum depends on its kind alone: a text
is refused as a name, an integer of eight bits as a number, and all else as having the wrong shape
(`ofDatum_eq_error_iff`).

A level is written as its name, so reading a datum and writing the level leads to one form for all
data that stand for the same level, and that form stays as it is (`normalize_of_normalize`). A level
without a name is written as its number, which is not read back (`ofDatum_toDatum`). Still no two
levels are written alike.
-/

namespace Switchboard.Level

/-- The data that stand for a level. -/
inductive StandsFor : Datum → Level → Prop
  | name {s : String} {l : Level} (h : parse s = .ok l) : StandsFor (.text s) l
  | number {n : Int} {l : Level} (hl : 0 ≤ n) (hh : n ≤ 5) (h : l.raw.toInt = n) :
    StandsFor (.integer n) l

/-- Why a datum stands for no level. A number with a fractional part is no integer, even if that part
is zero. -/
inductive StandsForNone : Datum → String → Prop
  | name {s : String} {f : Fault} (h : parse s = .error f) : StandsForNone (.text s) f.message
  | number {n : Int} (hl : -128 ≤ n) (hh : n ≤ 127) (h : n < 0 ∨ 5 < n) :
    StandsForNone (.integer n) ("Invalid log level: " ++ toString n)
  | far {n : Int} (h : n < -128 ∨ 127 < n) :
    StandsForNone (.integer n) "data did not match any variant of untagged enum Repr"
  | other {d : Datum} (hs : ∀ s, d ≠ .text s) (hn : ∀ n, d ≠ .integer n) :
    StandsForNone d "data did not match any variant of untagged enum Repr"

/-- A datum in the form in which the level that it stands for is written. -/
def normalize (d : Datum) : Except Mismatch Datum :=
  (ofDatum d).map toDatum

/-! ### Reading -/

section Integers

variable {n : Int}

/-- An integer of eight bits is looked up among the known levels. -/
theorem ofDatum_near (hl : -128 ≤ n) (hh : n ≤ 127) :
    ofDatum (.integer n) =
      if 0 ≤ n ∧ n ≤ 5 then .ok ⟨Int8.ofInt n⟩
      else .error (.fault (.unknownLevel ⟨Int8.ofInt n⟩)) := by
  have hof : ofInt? n = some ⟨Int8.ofInt n⟩ := if_pos ⟨hl, hh⟩
  have hk : (⟨Int8.ofInt n⟩ : Level).isKnown = true ↔ 0 ≤ n ∧ n ≤ 5 := by
    rw [isKnown_iff, Int8.toInt_ofInt_of_le hl (by omega)]
  simp only [ofDatum, hof, ofRaw]
  by_cases h : 0 ≤ n ∧ n ≤ 5
  · rw [if_pos h, if_pos (hk.2 h)]
    rfl
  · rw [if_neg h, if_neg (mt hk.1 h)]
    rfl

/-- Any other integer is no level, whatever it would be if it were wrapped into eight bits. -/
theorem ofDatum_far (h : n < -128 ∨ 127 < n) : ofDatum (.integer n) = .error .shape := by
  have hof : ofInt? n = none := by
    refine if_neg fun ⟨hl, hh⟩ => ?_
    have hl : -128 ≤ n := hl
    have hh : n ≤ 127 := hh
    omega
  simp only [ofDatum, hof]

end Integers

theorem ofDatum_eq_ok_iff {d : Datum} {l : Level} : ofDatum d = .ok l ↔ StandsFor d l := by
  constructor
  · intro h
    cases d with
    | text s => exact .name (eq_ok_of_mapError h)
    | integer n =>
      by_cases hfar : n < -128 ∨ 127 < n
      · rw [ofDatum_far hfar] at h
        cases h
      · rw [ofDatum_near (by omega) (by omega)] at h
        split_ifs at h with hk
        obtain rfl := Except.ok.inj h
        exact .number hk.1 hk.2 (Int8.toInt_ofInt_of_le (by omega) (by omega))
    | _ => cases h
  · rintro (h | ⟨hl, hh, h⟩)
    · rw [ofDatum, h]
      rfl
    · rw [ofDatum_near (by omega) (by omega), if_pos ⟨hl, hh⟩]
      refine congrArg _ (eq_of_toInt ?_)
      rw [h]
      exact Int8.toInt_ofInt_of_le (by omega) (by omega)

/-- What is said of a number of eight bits that is the number of no known level. -/
theorem message_unknownLevel {n : Int} (hl : -128 ≤ n) (hh : n ≤ 127) :
    (Mismatch.fault (.unknownLevel ⟨Int8.ofInt n⟩)).message =
      "Invalid log level: " ++ toString n := by
  show "Invalid log level: " ++ toString (Int8.ofInt n).toInt = _
  rw [Int8.toInt_ofInt_of_le hl (by omega)]

theorem standsForNone_of_ofDatum {d : Datum} {m : Mismatch} (h : ofDatum d = .error m) :
    StandsForNone d m.message := by
  cases d with
  | text s =>
    rw [ofDatum] at h
    rcases hp : parse s with f | l
    · rw [hp] at h
      obtain rfl := Except.error.inj h
      exact .name hp
    · rw [hp] at h
      cases h
  | integer n =>
    by_cases hfar : n < -128 ∨ 127 < n
    · rw [ofDatum_far hfar] at h
      obtain rfl := Except.error.inj h
      exact .far hfar
    · have hl : -128 ≤ n := by omega
      have hh : n ≤ 127 := by omega
      rw [ofDatum_near hl hh] at h
      split_ifs at h with hk
      obtain rfl := Except.error.inj h
      rw [message_unknownLevel hl hh]
      exact .number hl hh (by omega)
  | _ =>
    obtain rfl := Except.error.inj h
    exact .other (fun s hs => by cases hs) (fun n hn => by cases hn)

theorem ofDatum_eq_error_iff {d : Datum} {reason : String} :
    (∃ m, ofDatum d = .error m ∧ m.message = reason) ↔ StandsForNone d reason := by
  constructor
  · rintro ⟨m, h, rfl⟩
    exact standsForNone_of_ofDatum h
  · intro h
    cases h with
    | @name s f hp => exact ⟨.fault f, by rw [ofDatum, hp]; rfl, rfl⟩
    | number hl hh hn =>
      exact ⟨_, by rw [ofDatum_near hl hh, if_neg (by omega)], message_unknownLevel hl hh⟩
    | far hfar => exact ⟨_, ofDatum_far hfar, rfl⟩
    | other hs hn =>
      cases d with
      | text s => exact absurd rfl (hs s)
      | integer n => exact absurd rfl (hn n)
      | _ => exact ⟨.shape, rfl, rfl⟩

/-! ### Writing -/

theorem toDatum_of_name? {l : Level} {name : String} (h : l.name? = some name) :
    l.toDatum = .text name := by
  rw [toDatum, h]

theorem toDatum_of_unknown {l : Level} (h : l.isKnown = false) :
    l.toDatum = .integer l.raw.toInt := by
  rw [toDatum, name?_eq_none_iff.2 h]

/-- Of what is written, the names are read back and the numbers are not. -/
theorem ofDatum_toDatum (l : Level) :
    ofDatum l.toDatum = if l.isKnown then .ok l else .error (.fault (.unknownLevel l)) := by
  by_cases hl : l.isKnown = true
  · obtain ⟨name, hname, -⟩ := name?_of_isKnown hl
    rw [if_pos hl, toDatum_of_name? hname, ofDatum, parse_of_name? hname]
    rfl
  · rw [if_neg hl, toDatum_of_unknown (Bool.eq_false_iff.2 hl), ofDatum, ofInt?_raw]
    show (ofRaw l.raw).mapError _ = _
    rw [ofRaw, if_neg hl]
    rfl

theorem toDatum_injective : Function.Injective toDatum := by
  intro l m h
  have hread := (ofDatum_toDatum l).symm.trans ((congrArg ofDatum h).trans (ofDatum_toDatum m))
  split_ifs at hread
  · exact Except.ok.inj hread
  · exact Fault.unknownLevel.inj (Mismatch.fault.inj (Except.error.inj hread))

theorem normalize_eq_ok_iff {d e : Datum} :
    normalize d = .ok e ↔ ∃ l, ofDatum d = .ok l ∧ l.toDatum = e := by
  rw [normalize]
  rcases ofDatum d with m | l
  · exact iff_of_false nofun (by rintro ⟨l, ⟨⟩, -⟩)
  · show Except.ok l.toDatum = Except.ok e ↔ _
    simp only [Except.ok.injEq, exists_eq_left']

theorem normalize_of_normalize {d e : Datum} (h : normalize d = .ok e) : normalize e = .ok e := by
  obtain ⟨l, hl, rfl⟩ := normalize_eq_ok_iff.1 h
  refine normalize_eq_ok_iff.2 ⟨l, ?_, rfl⟩
  rw [ofDatum_toDatum, if_pos (isKnown_of_ofDatum hl)]

/-- A datum is read as a level if and only if it is a text that is read as a name of the level, or
the number of a known level; so no number is wrapped into eight bits. The level is then written as
its name, which is read as the same level. So all data that stand for a level have one normal form,
which is its own, and no other level has it. Any other datum is refused: a text as it is when a name
is read, a number of eight bits as that of an unknown level, and all else as not being of either
form. What is written of a level is read back if and only if the level is known. -/
theorem data_stand_for_levels :
    (∀ d l, ofDatum d = .ok l ↔ StandsFor d l) ∧
      (∀ d reason, (∃ m, ofDatum d = .error m ∧ m.message = reason) ↔ StandsForNone d reason) ∧
      (∀ d l, ofDatum d = .ok l → ∃ name, l.name? = some name ∧ l.toDatum = .text name ∧
        ofDatum (.text name) = .ok l) ∧
      (∀ d e, normalize d = .ok e → normalize e = .ok e) ∧
      (∀ d d' l l', ofDatum d = .ok l → ofDatum d' = .ok l' →
        (normalize d = normalize d' ↔ l = l')) ∧
      ∀ l : Level, (ofDatum l.toDatum = .ok l ↔ l.isKnown = true) ∧
        (l.isKnown = false → l.toDatum = .integer l.raw.toInt ∧
          ofDatum l.toDatum = .error (.fault (.unknownLevel l)) ∧
          (Mismatch.fault (.unknownLevel l)).message =
            "Invalid log level: " ++ toString l.raw.toInt) := by
  refine ⟨fun d l => ofDatum_eq_ok_iff, fun d reason => ofDatum_eq_error_iff, fun d l h => ?_,
    fun d e => normalize_of_normalize, fun d d' l l' h h' => ?_, fun l => ⟨?_, fun hl => ?_⟩⟩
  · have hk := isKnown_of_ofDatum h
    obtain ⟨name, hname, -⟩ := name?_of_isKnown hk
    have hd := toDatum_of_name? hname
    refine ⟨name, hname, hd, ?_⟩
    rw [← hd, ofDatum_toDatum, if_pos hk]
  · rw [normalize_eq_ok_iff.2 ⟨l, h, rfl⟩, normalize_eq_ok_iff.2 ⟨l', h', rfl⟩, Except.ok.injEq,
      toDatum_injective.eq_iff]
  · rw [ofDatum_toDatum]
    by_cases hl : l.isKnown = true
    · rw [if_pos hl]
      exact iff_of_true rfl hl
    · rw [if_neg hl]
      exact iff_of_false nofun hl
  · rw [ofDatum_toDatum, hl]
    exact ⟨toDatum_of_unknown hl, rfl, rfl⟩

/-- Two data of different kinds with one normal form, and two numbers that are refused: one would be
that of the same level if it were wrapped into eight bits, and one is what is written of a level. -/
theorem name_and_number_share_normal_form :
    ofDatum (.text "\tWarn ") = .ok warning ∧ ofDatum (.integer 3) = .ok warning ∧
      normalize (.text "\tWarn ") = normalize (.integer 3) ∧
      normalize (.integer 3) = .ok (.text "warning") ∧
      normalize (.text "warning") = .ok (.text "warning") ∧
      (∃ m, ofDatum (.integer 259) = .error m ∧
        m.message = "data did not match any variant of untagged enum Repr") ∧
      (⟨-1⟩ : Level).isKnown = false ∧ ∃ m, ofDatum (⟨-1⟩ : Level).toDatum = .error m ∧
        m.message = "Invalid log level: -1" := by
  obtain ⟨hok, herror, -, hnormal, hsame, hraw⟩ := data_stand_for_levels
  have htext : ofDatum (.text "\tWarn ") = .ok warning := (hok _ _).2 (.name rfl)
  have hnumber : ofDatum (.integer 3) = .ok warning :=
    (hok _ _).2 (.number (by decide) (by decide) rfl)
  have hform : normalize (.integer 3) = .ok (.text "warning") := rfl
  have hunknown : (⟨-1⟩ : Level).isKnown = false := rfl
  obtain ⟨-, hrefused, hmessage⟩ := (hraw ⟨-1⟩).2 hunknown
  exact ⟨htext, hnumber, (hsame _ _ _ _ htext hnumber).2 rfl, hform, hnormal _ _ hform,
    (herror _ _).2 (.far (.inr (by decide))), hunknown, _, hrefused, hmessage⟩

end Switchboard.Level
