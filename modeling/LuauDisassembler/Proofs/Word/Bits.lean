import Mathlib.Tactic.Ring
import LuauDisassembler.Word

/-!
# Writing into a word

`Word.bits` reads a run of bits.  Here is its counterpart: `Word.put` replaces the run by the low
bits of a number and leaves all other bits of the word alone, those above the width of a word
included.

* `Word.bits_put`: the run that was written holds the low bits of the number.
* `Word.bits_put_of_below`, `Word.bits_put_of_above`: a run that lies beside it keeps its value.
* `Word.put_of_bits`: a word that holds the number already stays as it is.

The frame lemmas split powers of two, `2 ^ (m + n) = 2 ^ m * 2 ^ n` (`weight_add`), and let the
written number fall out of a remainder or of a quotient.
-/

namespace LuauDisassembler.Word

theorem weight_add (m n : Nat) : weight (m + n) = weight m * weight n := Nat.pow_add 2 m n

theorem div_weight_add (w : Int) (m n : Nat) : w / weight (m + n) = w / weight m / weight n := by
  rw [weight_add, Int.natCast_mul, Int.ediv_mul_of_nonneg (Int.natCast_nonneg _)]

theorem bits_zero (w : Int) (n : Nat) : bits w 0 n = w % weight n := by
  have h0 : (weight 0 : Int) = 1 := rfl
  rw [bits, h0, Int.ediv_one]

/-- The opcode is what remains of the word modulo 256. -/
theorem opcode_eq_emod (w : Int) : opcode w = w % 256 := bits_zero w opcodeWidth

theorem natCast_weight_pos (n : Nat) : (0 : Int) < weight n := mod_cast weight_pos n

theorem weight_ne_zero (n : Nat) : (weight n : Int) ≠ 0 := Int.ne_of_gt (natCast_weight_pos n)

/-- The word `w` with the low `n` bits of `v` in its bits from `low` on. -/
def put (w : Int) (low n : Nat) (v : Int) : Int :=
  w + (v % weight n - bits w low n) * weight low

/-- Above the start of the run, only the run has changed. -/
theorem put_div_weight (w : Int) (low n : Nat) (v : Int) :
    put w low n v / weight low = v % weight n + weight n * (w / weight low / weight n) := by
  have hsplit := Int.emod_add_mul_ediv (w / weight low) (weight n)
  rw [put, Int.add_mul_ediv_right _ _ (weight_ne_zero low), bits]
  omega

theorem bits_put (w : Int) (low n : Nat) (v : Int) : bits (put w low n v) low n = v % weight n := by
  rw [bits, put_div_weight, Int.add_mul_emod_self_left, Int.emod_emod]

theorem bits_put_of_below {m k low : Nat} (h : m + k ≤ low) (w : Int) (n : Nat) (v : Int) :
    bits (put w low n v) m k = bits w m k := by
  obtain ⟨j, rfl⟩ := Nat.exists_eq_add_of_le h
  have hput : put w (m + k + j) n v =
      w + (v % weight n - bits w (m + k + j) n) * weight j * weight k * weight m := by
    rw [put, weight_add, weight_add]
    push_cast
    ring
  rw [bits, hput, Int.add_mul_ediv_right _ _ (weight_ne_zero m), Int.add_mul_emod_self_right, bits]

theorem bits_put_of_above {low n m : Nat} (h : low + n ≤ m) (w : Int) (k : Nat) (v : Int) :
    bits (put w low n v) m k = bits w m k := by
  obtain ⟨j, rfl⟩ := Nat.exists_eq_add_of_le h
  have hlow : v % weight n / weight n = 0 :=
    Int.ediv_eq_zero_of_lt (Int.emod_nonneg _ (weight_ne_zero n))
      (Int.emod_lt_of_pos _ (natCast_weight_pos n))
  have hput : put w low n v / weight (low + n) = w / weight (low + n) := by
    rw [div_weight_add, put_div_weight, Int.add_mul_ediv_left _ _ (weight_ne_zero n), hlow,
      Int.zero_add, ← div_weight_add]
  rw [bits, div_weight_add, hput, ← div_weight_add, bits]

/-- A run that holds the bits already is not changed. -/
theorem put_of_bits {w : Int} {low n : Nat} {v : Int} (h : bits w low n = v % weight n) :
    put w low n v = w := by
  rw [put, h, Int.sub_self, Int.zero_mul, Int.add_zero]

end LuauDisassembler.Word
