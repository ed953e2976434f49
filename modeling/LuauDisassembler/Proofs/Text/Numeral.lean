import Mathlib.Data.Nat.Digits.Lemmas
import LuauDisassembler.Text.Numeral

/-!
# Reading numerals back

A numeral determines its number: `numberOf` reads the digits back (`numberOf_toDigits`), the zeros
of the padding change nothing (`numberOf_leftpad`), and only the sign can make a numeral begin with
a hyphen.

* `numeral_injective`: numerals of one base, width and mark differ if their numbers do.
* `numberOf_lt`: digits write numbers below the power of the base that their count gives.
* `mem_numeral`: the characters that can stand in a numeral.
-/

namespace LuauDisassembler.Text

/-! ### Digits -/

theorem isDigit_iff {c : Char} : c.isDigit = true ↔ 48 ≤ c.toNat ∧ c.toNat ≤ 57 := by
  rw [Char.isDigit, Bool.and_eq_true, decide_eq_true_eq, decide_eq_true_eq]
  exact Iff.rfl

theorem le_iff_toNat_le {c d : Char} : c ≤ d ↔ c.toNat ≤ d.toNat := Iff.rfl

/-- The hexadecimal digits by their code points. -/
theorem isHexDigit_iff {c : Char} : isHexDigit c = true ↔
    48 ≤ c.toNat ∧ c.toNat ≤ 57 ∨ 65 ≤ c.toNat ∧ c.toNat ≤ 70 ∨ 97 ≤ c.toNat ∧ c.toNat ≤ 102 := by
  simp only [isHexDigit, Bool.or_eq_true, Bool.and_eq_true, decide_eq_true_eq, isDigit_iff,
    le_iff_toNat_le, Char.reduceToNat]
  omega

theorem digitValue_lt {c : Char} (h : isHexDigit c = true) : digitValue c < 16 := by
  have hc := isHexDigit_iff.1 h
  simp only [digitValue, isDigit_iff, le_iff_toNat_le, Char.reduceToNat]
  split
  · omega
  · split <;> omega

theorem digitValue_digitChar : ∀ d < 16, digitValue d.digitChar = d := by decide

/-! ### Numbers -/

theorem numberOf_append_singleton (b : Nat) (ds : List Char) (c : Char) :
    numberOf b (ds ++ [c]) = b * numberOf b ds + digitValue c := by
  rw [numberOf, List.foldl_append]
  rfl

/-- The number of digits is the positional value of what they stand for. -/
theorem numberOf_eq_ofDigits (b : Nat) (ds : List Char) :
    numberOf b ds = Nat.ofDigits b (ds.map digitValue).reverse := by
  induction ds using List.reverseRecOn with
  | nil => rfl
  | append_singleton ds c ih =>
    rw [numberOf_append_singleton, ih, List.map_append, List.reverse_append, List.map_singleton,
      List.reverse_singleton, List.singleton_append, Nat.ofDigits_cons, Nat.add_comm]

theorem numberOf_lt {ds : List Char} (h : ∀ c ∈ ds, isHexDigit c = true) :
    numberOf 16 ds < 16 ^ ds.length := by
  have hlt := Nat.ofDigits_lt_base_pow_length (b := 16) (l := (ds.map digitValue).reverse)
    (by decide) (by
      intro d hd
      obtain ⟨c, hc, rfl⟩ := List.mem_map.1 (List.mem_reverse.1 hd)
      exact digitValue_lt (h c hc))
  rwa [List.length_reverse, List.length_map, ← numberOf_eq_ofDigits] at hlt

theorem numberOf_leftpad (b n : Nat) (ds : List Char) :
    numberOf b (ds.leftpad n '0') = numberOf b ds := by
  rw [List.leftpad, numberOf, List.foldl_append]
  congr 1
  induction n - ds.length with
  | zero => rfl
  | succ k ih =>
    rw [List.replicate_succ, List.foldl_cons]
    exact ih

theorem numberOf_toDigits {b : Nat} (hb : 1 < b) (hb' : b ≤ 16) (n : Nat) :
    numberOf b (Nat.toDigits b n) = n := by
  induction n using Nat.strongRecOn with
  | ind n ih =>
    rw [Nat.toDigits_eq_if hb]
    split
    · rename_i hn
      have hd := digitValue_digitChar n (by omega)
      simpa [numberOf] using hd
    · rename_i hn
      have hmod : n % b < b := Nat.mod_lt n (by omega)
      rw [numberOf_append_singleton, ih (n / b) (Nat.div_lt_self (by omega) hb),
        digitValue_digitChar _ (by omega)]
      exact Nat.div_add_mod n b

/-- The digits are those that stand for the numbers below sixteen, with small letters. -/
theorem mem_toDigits {b : Nat} (hb : 1 < b) (hb' : b ≤ 16) {n : Nat} {c : Char}
    (h : c ∈ Nat.toDigits b n) : ∃ d < 16, d.digitChar = c := by
  induction n using Nat.strongRecOn with
  | ind n ih =>
    rw [Nat.toDigits_eq_if hb] at h
    split at h
    · rename_i hn
      exact ⟨n, by omega, (List.mem_singleton.1 h).symm⟩
    · rename_i hn
      have hmod : n % b < b := Nat.mod_lt n (by omega)
      rcases List.mem_append.1 h with h | h
      · exact ih (n / b) (Nat.div_lt_self (by omega) hb) h
      · exact ⟨n % b, by omega, (List.mem_singleton.1 h).symm⟩

/-! ### Numerals -/

theorem numeral_of_nonneg {base width : Nat} {mark : List Char} {i : Int} (h : 0 ≤ i) :
    numeral base width mark i =
      mark ++ (Nat.toDigits base i.natAbs).leftpad (width - mark.length) '0' := by
  simp [numeral, Int.not_lt.2 h]

theorem numeral_of_neg {base width : Nat} {mark : List Char} {i : Int} (h : i < 0) :
    numeral base width mark i =
      '-' :: (mark ++ (Nat.toDigits base i.natAbs).leftpad (width - 1 - mark.length) '0') := by
  simp [numeral, h]

theorem mem_leftpad_toDigits {b : Nat} (hb : 1 < b) (hb' : b ≤ 16) {n k : Nat} {c : Char}
    (h : c ∈ (Nat.toDigits b n).leftpad k '0') : ∃ d < 16, d.digitChar = c := by
  rcases List.mem_append.1 h with h | h
  · exact ⟨0, by decide, (List.eq_of_mem_replicate h).symm⟩
  · exact mem_toDigits hb hb' h

/-- A numeral holds digits, its mark and maybe a sign. -/
theorem mem_numeral {base width : Nat} (hb : 1 < base) (hb' : base ≤ 16) {mark : List Char}
    {i : Int} {c : Char} (h : c ∈ numeral base width mark i) :
    c = '-' ∨ c ∈ mark ∨ ∃ d < 16, d.digitChar = c := by
  by_cases hi : i < 0
  · rw [numeral_of_neg hi, List.mem_cons, List.mem_append] at h
    exact h.imp id (Or.imp id (mem_leftpad_toDigits hb hb'))
  · rw [numeral_of_nonneg (Int.not_lt.1 hi), List.mem_append] at h
    exact Or.inr (h.imp id (mem_leftpad_toDigits hb hb'))

/-- Only a negative number begins with a hyphen. -/
theorem head_numeral {base width : Nat} (hb : 1 < base) (hb' : base ≤ 16) {mark : List Char}
    (hm : '-' ∉ mark) {i : Int} : (numeral base width mark i).head? = some '-' ↔ i < 0 := by
  by_cases hi : i < 0
  · simp [numeral_of_neg hi, hi]
  · rw [numeral_of_nonneg (Int.not_lt.1 hi)]
    refine iff_of_false (fun h => ?_) hi
    rcases List.mem_append.1 (List.mem_of_mem_head? h) with h | h
    · exact hm h
    · obtain ⟨d, hd, hc⟩ := mem_leftpad_toDigits hb hb' h
      exact (by decide : ∀ d < 16, d.digitChar ≠ '-') d hd hc

/-- **A numeral determines its number.** -/
theorem numeral_injective {base width : Nat} (hb : 1 < base) (hb' : base ≤ 16)
    {mark : List Char} (hm : '-' ∉ mark) {i j : Int}
    (h : numeral base width mark i = numeral base width mark j) : i = j := by
  have hsign : i < 0 ↔ j < 0 := by
    rw [← @head_numeral base width hb hb' mark hm i, h, head_numeral hb hb' hm]
  have hdigits {n m k : Nat} (hnm : (Nat.toDigits base n).leftpad k '0' =
      (Nat.toDigits base m).leftpad k '0') : n = m := by
    have := congrArg (numberOf base) hnm
    rwa [numberOf_leftpad, numberOf_leftpad, numberOf_toDigits hb hb', numberOf_toDigits hb hb']
      at this
  by_cases hi : i < 0
  · have hj := hsign.1 hi
    rw [numeral_of_neg hi, numeral_of_neg hj] at h
    have := hdigits (List.append_cancel_left (List.cons.inj h).2)
    omega
  · have hj : ¬ j < 0 := fun hj => hi (hsign.2 hj)
    rw [numeral_of_nonneg (Int.not_lt.1 hi), numeral_of_nonneg (Int.not_lt.1 hj)] at h
    have := hdigits (List.append_cancel_left h)
    omega

end LuauDisassembler.Text
