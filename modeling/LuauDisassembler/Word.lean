/-!
# Instruction words

A word is an integer of any size and sign.  Its bits are those of two's complement with the sign
repeated for ever, so a negative or an oversized word has the same low bits as its residue modulo
a power of two, and nothing has to be cut to 32 bits before it is read.

* `Word.bits`: the number written in a run of bits.
* `Word.signedBits`: the same run read in two's complement.
* `Word.opcode`: the low byte, which selects the instruction.
* `Word.bits_nonneg`, `Word.bits_lt`: a run of `n` bits holds a number below the weight of bit `n`.
-/

namespace LuauDisassembler

namespace Word

/-- The number of bits that the stream format gives to a word. -/
def width : Nat := 32

/-- The number of bytes that a word takes in a binary stream. -/
def byteCount : Nat := 4

/-- The number of bits that hold the opcode, at the low end of the word. -/
def opcodeWidth : Nat := 8

/-- The weight of bit `n`: two to the power `n`. -/
def weight (n : Nat) : Nat := Nat.pow 2 n

/-- The largest number in `n` bits. -/
def maxUnsigned (n : Nat) : Int := weight n - 1

/-- The largest number in `n` bits of two's complement. -/
def maxSigned (n : Nat) : Int := weight (n - 1) - 1

/-- The number in the `n` bits of `w` from bit `low` upwards. -/
def bits (w : Int) (low n : Nat) : Int := w / weight low % weight n

/-- The number in the `n` bits of `w` from bit `low` upwards, the highest of them as the sign. -/
def signedBits (w : Int) (low n : Nat) : Int := (bits w low n).bmod (weight n)

/-- The byte that selects the instruction. -/
def opcode (w : Int) : Int := bits w 0 opcodeWidth

theorem weight_pos (n : Nat) : 0 < weight n := Nat.pow_pos (by decide)

theorem bits_nonneg (w : Int) (low n : Nat) : 0 ≤ bits w low n :=
  Int.emod_nonneg _ (Int.ne_of_gt (Int.natCast_pos.2 (weight_pos n)))

theorem bits_lt (w : Int) (low n : Nat) : bits w low n < weight n :=
  Int.emod_lt_of_pos _ (Int.natCast_pos.2 (weight_pos n))

end Word

end LuauDisassembler
