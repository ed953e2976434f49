import Mathlib.Data.List.Nodup
import Mathlib.Tactic.IntervalCases
import LuauDisassembler.TypeTag
import LuauDisassembler.Proofs.Word.Runs

/-!
# Type tags and their names

The base of a tag is the tag with bit 7 cleared.  All other bits stay, those above the seventh and
the repeated sign of a negative tag included, so a wide or a negative tag never has the base of a
small one, and a tag is told by its base and its optional bit.  A name tells both of them in turn:
the names of the base types differ, and none of them holds the mark that stands behind the name of
an optional type.

* `BaseType.exists_code_eq_iff`, `BaseType.shownName_inj`: the base types, their codes and names.
* `TypeTag.base_eq_put`, `TypeTag.testBit_base`: the bits of the base.
* `TypeTag.describe_eq_ok_iff`, `TypeTag.describe_eq_error_iff`: the tags that have a name.
* `TypeTag.describe_one_to_one`: tags and names correspond one to one.
-/

namespace LuauDisassembler

/-! ### Base types -/

namespace BaseType

theorem ofCode?_eq_some_iff {n : Int} {b : BaseType} : ofCode? n = some b ↔ b.code = n := by
  constructor
  · intro h
    simpa using List.find?_some h
  · rintro rfl
    exact ofCode?_code b

/-- The codes of the base types are the numbers from 0 to 9, and 15. -/
theorem exists_code_eq_iff {n : Int} : (∃ b : BaseType, b.code = n) ↔ 0 ≤ n ∧ n ≤ 9 ∨ n = 15 := by
  constructor
  · rintro ⟨b, rfl⟩
    cases b <;> decide
  · rintro (⟨h0, h9⟩ | rfl)
    · interval_cases n
      exacts [⟨nil, rfl⟩, ⟨boolean, rfl⟩, ⟨number, rfl⟩, ⟨string, rfl⟩, ⟨table, rfl⟩,
        ⟨function, rfl⟩, ⟨thread, rfl⟩, ⟨userdata, rfl⟩, ⟨vector, rfl⟩, ⟨buffer, rfl⟩]
    · exact ⟨any, rfl⟩

theorem name_injective : Function.Injective name := by
  intro b c h
  have hmem (t : BaseType) : t ∈ all := by cases t <;> decide
  have hnodup : (all.map name).Nodup := by decide
  exact List.inj_on_of_nodup_map hnodup (hmem b) (hmem c) h

/-- The name of a base type, marked if the type is optional. -/
def shownName (b : BaseType) (optional : Bool) : String :=
  if optional then b.name ++ "?" else b.name

/-- A marked name is no name of a base type. -/
theorem name_append_mark_ne_name (b c : BaseType) : b.name ++ "?" ≠ c.name := by
  intro h
  have hmark : '?' ∈ c.name.toList := by
    rw [← h, String.toList_append]
    exact List.mem_append_right _ (by decide)
  have hno : '?' ∉ c.name.toList := by cases c <;> decide
  exact hno hmark

/-- **A shown name tells the base type and the mark.** -/
theorem shownName_inj {b c : BaseType} {o p : Bool} (h : b.shownName o = c.shownName p) :
    b = c ∧ o = p := by
  cases o with
  | false =>
    cases p with
    | false => exact ⟨name_injective h, rfl⟩
    | true => exact (name_append_mark_ne_name c b h.symm).elim
  | true =>
    cases p with
    | false => exact (name_append_mark_ne_name b c h).elim
    | true => exact ⟨name_injective ((String.append_left_inj "?").1 h), rfl⟩

end BaseType

namespace TypeTag

/-! ### Bits of a tag -/

section

variable (t : Int)

/-- **The base is the tag with bit 7 cleared.** -/
theorem base_eq_put : base t = Word.put t 7 1 0 := by
  have h7 : (Word.weight 7 : Int) = 128 := rfl
  have h1 : (Word.weight 1 : Int) = 2 := rfl
  rw [base, optionalMask, Word.put, Word.bits, h7, h1]
  omega

theorem isOptional_eq_testBit : isOptional t = t.testBit 7 := by
  rw [Word.testBit_eq]
  rfl

/-- **Every bit but bit 7 belongs to the base.** -/
theorem testBit_base (k : Nat) : (base t).testBit k = (t.testBit k && k != 7) := by
  rw [Word.testBit_eq, Word.testBit_eq, base_eq_put]
  rcases Nat.lt_trichotomy k 7 with h | rfl | h
  · have hne : (k != 7) = true := by simpa using h.ne
    rw [Word.bits_put_of_below h, hne, Bool.and_true]
  · rw [Word.bits_put]
    simp
  · have hne : (k != 7) = true := by simpa using h.ne'
    rw [Word.bits_put_of_above h, hne, Bool.and_true]

theorem isOptional_base : isOptional (base t) = false := by
  rw [isOptional_eq_testBit, testBit_base]
  exact Bool.and_false _

theorem base_base : base (base t) = base t := by
  rw [base_eq_put (base t)]
  exact Word.put_of_bits (by rw [base_eq_put, Word.bits_put])

theorem isTaggedUserdata_iff : isTaggedUserdata t = true ↔ 64 ≤ base t ∧ base t < 96 := by
  rw [isTaggedUserdata, Bool.and_eq_true, decide_eq_true_iff, decide_eq_true_iff]
  rfl

end

/-- A tag is told by its base and its optional bit. -/
theorem eq_of_base_eq {t u : Int} (hb : base t = base u) (ho : isOptional t = isOptional u) :
    t = u := by
  rw [← base_add_optional t, hb, ho, base_add_optional]

/-! ### Names of tags -/

/-- A tag is named after its base type. -/
theorem describe_eq_ok_iff {t : Int} {suffix : Bool} {s : String} : describe t suffix = .ok s ↔
    ∃ b : BaseType, b.code = base t ∧ b.shownName (suffix && isOptional t) = s := by
  simp only [← BaseType.ofCode?_eq_some_iff]
  rw [describe]
  cases BaseType.ofCode? (base t) with
  | none => simp
  | some b => simp [BaseType.shownName]

theorem exists_describe_iff (t : Int) (suffix : Bool) : (∃ s, describe t suffix = .ok s) ↔
    0 ≤ base t ∧ base t ≤ 9 ∨ base t = 15 := by
  simp only [describe_eq_ok_iff, ← BaseType.exists_code_eq_iff]
  constructor
  · rintro ⟨-, b, hb, -⟩
    exact ⟨b, hb⟩
  · rintro ⟨b, hb⟩
    exact ⟨_, b, hb, rfl⟩

/-- **The tag itself is reported**, with its optional bit. -/
theorem describe_eq_error_iff {t : Int} {suffix : Bool} {e : DecodeError} :
    describe t suffix = .error e ↔
      ¬ (0 ≤ base t ∧ base t ≤ 9 ∨ base t = 15) ∧ e = .unrepresentableType t := by
  rw [← exists_describe_iff t suffix, describe]
  cases BaseType.ofCode? (base t) with
  | none => simp [eq_comm]
  | some b => simp

/-- Without the mark a tag has the name of its base. -/
theorem describe_base_eq_ok_iff {t : Int} {s : String} :
    describe (base t) true = .ok s ↔ describe t false = .ok s := by
  simp only [describe_eq_ok_iff, base_base, isOptional_base, Bool.and_false, Bool.false_and]

/-- **Tags with one name are one tag.** -/
theorem eq_of_describe_eq {t u : Int} {s : String} (ht : describe t true = .ok s)
    (hu : describe u true = .ok s) : t = u := by
  obtain ⟨b, hb, hbs⟩ := describe_eq_ok_iff.1 ht
  obtain ⟨c, hc, hcs⟩ := describe_eq_ok_iff.1 hu
  obtain ⟨rfl, ho⟩ := BaseType.shownName_inj (hbs.trans hcs.symm)
  exact eq_of_base_eq (hb.symm.trans hc) ho

/-- **Type tags and their names correspond one to one**, over all integers.  A tag is its base and
its optional bit, which is bit 7; the base has all other bits of the tag.  A tag has a name exactly
if its base is one of the eleven base types, and is itself reported otherwise; so no userdata type
of the host has a name.  Without the mark a tag is named like its base.  With the mark two tags
never share a name. -/
theorem describe_one_to_one (t : Int) :
    t = base t + (if isOptional t then 128 else 0) ∧
    (isOptional t = t.testBit 7 ∧ ∀ k, (base t).testBit k = (t.testBit k && k != 7)) ∧
    (∀ suffix, (∃ s, describe t suffix = .ok s) ↔ 0 ≤ base t ∧ base t ≤ 9 ∨ base t = 15) ∧
    (∀ suffix e, describe t suffix = .error e ↔
      ¬ (0 ≤ base t ∧ base t ≤ 9 ∨ base t = 15) ∧ e = .unrepresentableType t) ∧
    (∀ s, describe t false = .ok s ↔ describe (base t) true = .ok s) ∧
    (isTaggedUserdata t = true → ∀ suffix s, describe t suffix ≠ .ok s) ∧
    ∀ u r s, describe t true = .ok r → describe u true = .ok s → (r = s ↔ t = u) := by
  refine ⟨(base_add_optional t).symm, ⟨isOptional_eq_testBit t, testBit_base t⟩,
    exists_describe_iff t, fun _ _ => describe_eq_error_iff,
    fun _ => describe_base_eq_ok_iff.symm, ?_, ?_⟩
  · intro htagged suffix s hs
    have hnamed := (exists_describe_iff t suffix).1 ⟨s, hs⟩
    have hrange := (isTaggedUserdata_iff t).1 htagged
    omega
  · intro u r s ht hu
    constructor
    · rintro rfl
      exact eq_of_describe_eq ht hu
    · rintro rfl
      exact Except.ok.inj (ht.symm.trans hu)

-- 258 has the low bits of 2, and -126 those of 130; 192 is an optional userdata type of the host
example : describe 130 true = .ok "number?" ∧
    describe 258 true = .error (.unrepresentableType 258) ∧
    describe (-126) true = .error (.unrepresentableType (-126)) ∧
    isTaggedUserdata 192 = true := by decide

end TypeTag

end LuauDisassembler
