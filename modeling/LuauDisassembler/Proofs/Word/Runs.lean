import Mathlib.Data.Int.Bitwise
import Mathlib.Data.Int.ModEq
import LuauDisassembler.Proofs.Word.Bits

/-!
# Runs of bits

A run of bits can be cut out of a word in two ways: the bits below it are dropped and the rest is
reduced, or the word is reduced first and the bits below the run are dropped then.  Both give the
same number, whatever the size and the sign of the word, because dividing by a power of two rounds
down.  So a run does not see the bits above it, and it is put together from its parts like a number
from its digits.

* `Word.bits_eq_emod_ediv`: the second way to cut out a run.
* `Word.bits_congr`: words that agree below bit `k` have the same runs there.
* `Word.bits_add`: a run and the one that follows it.
* `Word.signedBits_eq_iff`: the reading of a run in two's complement.
* `Word.testBit_eq`: the runs of one bit are the bits of the word.
-/

namespace LuauDisassembler.Word

/-! ### Unsigned runs -/

/-- **Reducing before dropping** gives the same run as dropping before reducing. -/
theorem bits_eq_emod_ediv (w : Int) (low n : Nat) :
    bits w low n = w % weight (low + n) / weight low := by
  have hweight : (weight (low + n) : Int) = weight n * weight low := by
    rw [weight_add, Nat.mul_comm, Int.natCast_mul]
  have hsplit : w % weight (low + n) + weight n * (w / weight (low + n)) * weight low = w := by
    rw [Int.mul_right_comm, ← hweight, Int.emod_add_mul_ediv]
  have hdiv : w / weight low =
      w % weight (low + n) / weight low + weight n * (w / weight (low + n)) := by
    rw [← Int.add_mul_ediv_right _ _ (weight_ne_zero low), hsplit]
  have hnonneg : 0 ≤ w % weight (low + n) / weight low :=
    Int.ediv_nonneg (Int.emod_nonneg _ (weight_ne_zero _)) (Int.natCast_nonneg _)
  have hlt : w % weight (low + n) / weight low < weight n := by
    refine Int.ediv_lt_of_lt_mul (natCast_weight_pos low) ?_
    rw [← hweight]
    exact Int.emod_lt_of_pos _ (natCast_weight_pos _)
  rw [bits, hdiv, Int.add_mul_emod_self_left, Int.emod_eq_of_lt hnonneg hlt]

theorem emod_weight_of_le {m n : Nat} (h : m ≤ n) (w : Int) :
    w % weight n % weight m = w % weight m := by
  obtain ⟨j, rfl⟩ := Nat.exists_eq_add_of_le h
  exact Int.emod_emod_of_dvd w ⟨weight j, by rw [weight_add, Int.natCast_mul]⟩

/-- **A run does not see the bits above it.** -/
theorem bits_congr {v w : Int} {k : Nat} (h : v % weight k = w % weight k) {low n : Nat}
    (hk : low + n ≤ k) : bits v low n = bits w low n := by
  rw [bits_eq_emod_ediv, bits_eq_emod_ediv, ← emod_weight_of_le hk v, h, emod_weight_of_le hk]

theorem opcode_congr {v w : Int} (h : v % weight width = w % weight width) :
    opcode v = opcode w :=
  bits_congr h (by decide)

/-- **A run and the one that follows it** are the low and the high digit of both together. -/
theorem bits_add (w : Int) (low m n : Nat) :
    bits w low (m + n) = bits w low m + weight m * bits w (low + m) n := by
  have hlow : bits w low (m + n) % weight m = bits w low m :=
    emod_weight_of_le (Nat.le_add_right m n) _
  have hhigh : bits w low (m + n) / weight m = bits w (low + m) n := by
    rw [bits, bits, div_weight_add, ← bits_eq_emod_ediv, bits]
  rw [← hlow, ← hhigh, Int.emod_add_mul_ediv]

/-! ### Signed runs -/

/-- **Two's complement**: the number in the signed range that is congruent to the run. -/
theorem signedBits_eq_iff {w v : Int} {low n : Nat} : signedBits w low (n + 1) = v ↔
    -weight n ≤ v ∧ v < weight n ∧ v ≡ bits w low (n + 1) [ZMOD weight (n + 1)] := by
  have hdouble : weight (n + 1) = weight n * 2 := weight_add n 1
  have hhalf : ((weight (n + 1) : Int) + 1) / 2 = weight n := by omega
  have hhalf' : (weight (n + 1) : Int) / 2 = weight n := by omega
  rw [signedBits, Int.bmod_eq_iff (weight_pos _), hhalf, hhalf', Int.modEq_comm, Int.modEq_iff_dvd]

theorem signedBits_congr {v w : Int} {k : Nat} (h : v % weight k = w % weight k) {low n : Nat}
    (hk : low + n ≤ k) : signedBits v low n = signedBits w low n := by
  rw [signedBits, bits_congr h hk, signedBits]

/-! ### Single bits -/

/-- **The runs of one bit are the bits of the word**, the repeated sign of a negative word
included. -/
theorem testBit_eq (w : Int) (k : Nat) : w.testBit k = decide (bits w k 1 = 1) := by
  have hnat (m : Nat) : m.testBit k = decide (m / weight k % 2 = 1) :=
    Nat.testBit_eq_decide_div_mod_eq
  have h1 : (weight 1 : Int) = 2 := rfl
  rw [bits, h1]
  cases w with
  | ofNat m =>
    rw [Int.testBit, hnat, decide_eq_decide, Int.ofNat_eq_natCast, ← Int.natCast_ediv]
    omega
  | negSucc m =>
    have hdiv : Int.negSucc m / (weight k : Int) = -((m / weight k : Nat) + 1) :=
      Int.negSucc_ediv m (natCast_weight_pos k)
    rw [Int.testBit, hnat, ← decide_not, decide_eq_decide, hdiv]
    omega

end LuauDisassembler.Word
