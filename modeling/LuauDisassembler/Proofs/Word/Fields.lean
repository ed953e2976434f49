import LuauDisassembler.Field
import LuauDisassembler.Proofs.Word.Runs

/-!
# The fields are views of one word

The opcode and the operand fields are runs of bits of one word of 32 bits, and none of them sees
more of an integer than its residue modulo `2 ^ 32`.  The opcode, `a`, `b` and `c` are the four
digits of that residue in base 256.  The wider fields are made of the same digits: `d` of `b` and
`c`, and `e` of `a` and `d`.  A signed field is the one number in the range of two's complement that
is congruent to the unsigned one.

* `Field.read_congr`, `Field.signed_congr`: fields of congruent words.
* `Field.emod_eq_digits`, `Field.read_d`, `Field.read_e`: the digits.
* `Field.views_of_one_word`: all of it, for any integer.
-/

namespace LuauDisassembler.Field

/-! ### What a field sees of a word -/

theorem low_add_width_le (f : Field) : f.low + f.width ≤ Word.width := by cases f <;> decide

theorem read_of_ne_sd {f : Field} (h : f ≠ sd) (w : Int) : f.read w = Word.bits w f.low f.width :=
  if_neg h

section

variable {v w : Int} (h : v % Word.weight Word.width = w % Word.weight Word.width)

include h

theorem signed_congr (f : Field) : f.signed v = f.signed w :=
  Word.signedBits_congr h f.low_add_width_le

theorem read_congr (f : Field) : f.read v = f.read w := by
  by_cases hf : f = sd
  · subst hf
    exact signed_congr h sd
  · rw [read_of_ne_sd hf, read_of_ne_sd hf, Word.bits_congr h f.low_add_width_le]

end

/-! ### Digits -/

section

variable (w : Int)

theorem read_d : d.read w = b.read w + 256 * c.read w := Word.bits_add w 16 8 8

theorem read_e : e.read w = a.read w + 256 * d.read w := Word.bits_add w 8 8 16

/-- **The opcode, `a`, `b` and `c` are the digits of the word** in base 256. -/
theorem emod_eq_digits : w % Word.weight Word.width =
    Word.opcode w + 256 * a.read w + 65536 * b.read w + 16777216 * c.read w := by
  have hword : Word.bits w 0 32 = Word.opcode w + 256 * e.read w := Word.bits_add w 0 8 24
  rw [← Word.bits_zero, Word.width, hword, read_e, read_d]
  ring

end

/-- Words are congruent exactly if they have the same fields. -/
theorem emod_eq_emod_iff {v w : Int} : v % Word.weight Word.width = w % Word.weight Word.width ↔
    Word.opcode v = Word.opcode w ∧ (∀ f : Field, f.read v = f.read w) ∧
      e.signed v = e.signed w := by
  constructor
  · intro h
    exact ⟨Word.opcode_congr h, read_congr h, signed_congr h e⟩
  · rintro ⟨hopcode, hread, -⟩
    rw [emod_eq_digits, emod_eq_digits, hopcode, hread a, hread b, hread c]

/-! ### Signs -/

/-- **A signed field** is the number in the range of two's complement that is congruent to the
unsigned one. -/
theorem signed_eq_iff (f : Field) {v w : Int} : f.signed w = v ↔
    -Word.weight (f.width - 1) ≤ v ∧ v < Word.weight (f.width - 1) ∧
      v ≡ f.unsigned w [ZMOD Word.weight f.width] := by
  cases f <;> exact Word.signedBits_eq_iff

/-! ### All fields -/

/-- **The fields are views of one word of 32 bits**, whatever the size and the sign of the integer
are that stands for it.  Two integers have the same fields exactly if they are congruent modulo
`2 ^ 32`; the opcode, `a`, `b` and `c` are bytes, and the digits of the word in base 256; `d` and
`e` are made of the same digits; and the signed fields are the numbers in the range of two's
complement that are congruent to them. -/
theorem views_of_one_word (w : Int) :
    (∀ v, v % 2 ^ 32 = w % 2 ^ 32 ↔ Word.opcode v = Word.opcode w ∧
      (∀ f : Field, f.read v = f.read w) ∧ e.signed v = e.signed w) ∧
    (0 ≤ Word.opcode w ∧ Word.opcode w ≤ 255) ∧
    (∀ f ∈ [a, b, c], 0 ≤ f.read w ∧ f.read w ≤ 255) ∧
    Word.opcode w + 256 * a.read w + 65536 * b.read w + 16777216 * c.read w = w % 2 ^ 32 ∧
    d.read w = b.read w + 256 * c.read w ∧
    e.read w = a.read w + 256 * d.read w ∧
    (∀ v, sd.read w = v ↔ -2 ^ 15 ≤ v ∧ v ≤ 2 ^ 15 - 1 ∧ v ≡ d.read w [ZMOD 2 ^ 16]) ∧
    ∀ v, e.signed w = v ↔ -2 ^ 23 ≤ v ∧ v ≤ 2 ^ 23 - 1 ∧ v ≡ e.read w [ZMOD 2 ^ 24] := by
  have hword : (Word.weight Word.width : Int) = 2 ^ 32 := rfl
  have hbyte (low : Nat) : 0 ≤ Word.bits w low 8 ∧ Word.bits w low 8 ≤ 255 :=
    ⟨Word.bits_nonneg w low 8, Int.le_of_lt_add_one (Word.bits_lt w low 8)⟩
  rw [← hword]
  refine ⟨fun v => emod_eq_emod_iff, hbyte 0, ?_, (emod_eq_digits w).symm, read_d w, read_e w,
    ?_, ?_⟩
  · intro f hf
    simp only [List.mem_cons, List.not_mem_nil, or_false] at hf
    rcases hf with rfl | rfl | rfl
    · exact hbyte 8
    · exact hbyte 16
    · exact hbyte 24
  · intro v
    rw [Int.le_sub_one_iff]
    exact signed_eq_iff sd
  · intro v
    rw [Int.le_sub_one_iff]
    exact signed_eq_iff e

-- a negative integer and one beyond 32 bits
example : sd.read (-65536) = -1 ∧ e.read (2 ^ 40 + 255) = 0 ∧ e.signed (-1) = -1 := by decide

end LuauDisassembler.Field
