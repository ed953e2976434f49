import LuauDisassembler.Proofs.Stream.Walk
import LuauDisassembler.Proofs.Word.Bits

/-!
# Encoding a program

A program is written down as a list of statements: an instruction of the set, a value for each field
of its shape, and an auxiliary word if the instruction takes one.  Its encoding starts from any
integer, the filler, and writes the opcode and the values over it.  So the bits that no field covers
and everything above bit 31 are whatever they were in the filler.

* `Field.bits_writeAll_of_mem`: since the fields of a shape do not overlap, each of them keeps the
  value that was written to it.
* `Descriptor.operandIn_of_bits`: a value in its range is read back from its low bits.
* `Statement.word_eq_filler_iff`: nothing but the opcode and the values is asked of a word.
* `Stream.decode_encode`: a walk through the encoding meets the statements, whatever the fillers and
  the auxiliary words look like.
-/

namespace LuauDisassembler

namespace Field

/-! ### Writing fields -/

/-- The word `w` with the value `v` in the field. -/
def write (f : Field) (w v : Int) : Int := Word.put w f.low f.width v

/-- The word `w` with several values in their fields. -/
def writeAll (w : Int) : List (Field × Int) → Int
  | [] => w
  | (f, v) :: l => writeAll (f.write w v) l

/-- The bits of `f` end before those of `g` begin. -/
def Below (f g : Field) : Prop := f.low + f.width ≤ g.low

instance (f g : Field) : Decidable (f.Below g) := inferInstanceAs (Decidable (_ ≤ _))

theorem opcodeWidth_le_low (f : Field) : Word.opcodeWidth ≤ f.low := by cases f <;> decide

/-- The fields of a shape do not overlap. -/
theorem pairwise_below (s : Shape) : s.fields.Pairwise Below := by cases s <;> decide

theorem bits_writeAll_of_below {m k : Nat} {l : List (Field × Int)}
    (h : ∀ p ∈ l, m + k ≤ p.1.low) (w : Int) : Word.bits (writeAll w l) m k = Word.bits w m k := by
  induction l generalizing w with
  | nil => rfl
  | cons p l ih =>
    rw [writeAll, ih (fun q hq => h q (List.mem_cons_of_mem p hq)), write,
      Word.bits_put_of_below (h p List.mem_cons_self)]

/-- Fields that do not overlap keep what is written to them. -/
theorem bits_writeAll_of_mem {l : List (Field × Int)} (h : (l.map (·.1)).Pairwise Below)
    {f : Field} {v : Int} (hm : (f, v) ∈ l) (w : Int) :
    Word.bits (writeAll w l) f.low f.width = v % Word.weight f.width := by
  induction l generalizing w with
  | nil => cases hm
  | cons p l ih =>
    rw [List.map_cons, List.pairwise_cons] at h
    rw [writeAll]
    rcases List.mem_cons.1 hm with rfl | hm
    · rw [bits_writeAll_of_below fun q hq => h.1 q.1 (List.mem_map_of_mem hq)]
      exact Word.bits_put w f.low f.width v
    · exact ih h.2 hm _

theorem writeAll_of_bits {l : List (Field × Int)} {w : Int}
    (h : ∀ p ∈ l, Word.bits w p.1.low p.1.width = p.2 % Word.weight p.1.width) :
    writeAll w l = w := by
  induction l with
  | nil => rfl
  | cons p l ih =>
    rw [writeAll, write, Word.put_of_bits (h p List.mem_cons_self)]
    exact ih fun q hq => h q (List.mem_cons_of_mem p hq)

/-! ### Reading fields -/

theorem unsigned_of_bits {f : Field} {w v : Int} (h0 : 0 ≤ v) (h1 : v < Word.weight f.width)
    (hb : Word.bits w f.low f.width = v % Word.weight f.width) : f.unsigned w = v := by
  rw [unsigned, hb, Int.emod_eq_of_lt h0 h1]

theorem signed_of_bits {f : Field} {w v : Int} (h0 : -Word.weight f.width ≤ v * 2)
    (h1 : v * 2 < Word.weight f.width)
    (hb : Word.bits w f.low f.width = v % Word.weight f.width) : f.signed w = v := by
  rw [signed, Word.signedBits, hb, Int.emod_bmod, Int.bmod_eq_of_le_mul_two h0 h1]

end Field

namespace Descriptor

/-- The values that an instruction can hold in a field. -/
def InRange (d : Descriptor) : Field → Int → Prop
  | .a, v | .b, v | .c, v => 0 ≤ v ∧ v ≤ 255
  | .d, v => 0 ≤ v ∧ v ≤ 65535
  | .sd, v => -32768 ≤ v ∧ v ≤ 32767
  | .e, v => if d.name = longJump then -8388608 ≤ v ∧ v ≤ 8388607 else 0 ≤ v ∧ v ≤ 16777215

instance (d : Descriptor) (f : Field) (v : Int) : Decidable (d.InRange f v) :=
  match f with
  | .a | .b | .c => inferInstanceAs (Decidable (_ ∧ _))
  | .d | .sd => inferInstanceAs (Decidable (_ ∧ _))
  | .e => inferInstanceAs (Decidable (ite _ _ _))

/-- A byte is its own residue. -/
theorem byte_emod (d : Descriptor) : (d.byte : Int) % Word.weight Word.opcodeWidth = d.byte :=
  Int.emod_eq_of_lt (Int.natCast_nonneg _) (mod_cast d.byte.isLt)

/-- **A value in its range is read back from its low bits.** -/
theorem operandIn_of_bits {d : Descriptor} {f : Field} {w v : Int} (hr : d.InRange f v)
    (hb : Word.bits w f.low f.width = v % Word.weight f.width) : d.operandIn w f = v := by
  have h8 : (Word.weight 8 : Int) = 256 := rfl
  have h16 : (Word.weight 16 : Int) = 65536 := rfl
  have h24 : (Word.weight 24 : Int) = 16777216 := rfl
  unfold operandIn
  cases f with
  | a | b | c =>
    rw [if_neg (by simp), Field.read, if_neg (by decide)]
    exact Field.unsigned_of_bits hr.1 (by rw [Field.width, h8]; exact Int.lt_add_one_of_le hr.2) hb
  | d =>
    rw [if_neg (by simp), Field.read, if_neg (by decide)]
    exact Field.unsigned_of_bits hr.1 (by rw [Field.width, h16]; exact Int.lt_add_one_of_le hr.2) hb
  | sd =>
    obtain ⟨hlow, hhigh⟩ := hr
    rw [if_neg (by simp), Field.read, if_pos rfl]
    exact Field.signed_of_bits (by rw [Field.width, h16]; omega)
      (by rw [Field.width, h16]; omega) hb
  | e =>
    rw [InRange] at hr
    by_cases hj : d.name = longJump
    · rw [if_pos hj] at hr
      rw [if_pos ⟨rfl, hj⟩]
      exact Field.signed_of_bits (by rw [Field.width, h24]; omega)
        (by rw [Field.width, h24]; omega) hb
    · rw [if_neg hj] at hr
      rw [if_neg (fun h => hj h.2), Field.read, if_neg (by decide)]
      exact Field.unsigned_of_bits hr.1 (by rw [Field.width, h24]; omega) hb

end Descriptor

/-! ### Statements -/

/-- A line of a program: an instruction of the set with its operands. -/
structure Statement where
  descriptor : Descriptor
  /-- The values of the fields, in the order of the shape. -/
  values : List Int
  aux : Option Int
  /-- The integer over which the opcode and the values are written. -/
  filler : Int
  mem_all : descriptor ∈ Descriptor.all
  length_values : values.length = descriptor.shape.fields.length
  inRange : ∀ p ∈ descriptor.shape.fields.zip values, descriptor.InRange p.1 p.2
  isSome_aux : aux.isSome = descriptor.hasAux

namespace Statement

/-- The fields of the instruction with their values. -/
def assignment (s : Statement) : List (Field × Int) := s.descriptor.shape.fields.zip s.values

/-- The word that holds the opcode and the values, and is the filler elsewhere. -/
def word (s : Statement) : Int :=
  Field.writeAll (Word.put s.filler 0 Word.opcodeWidth s.descriptor.byte) s.assignment

/-- The words of the statement. -/
def words (s : Statement) : List Int := s.word :: s.aux.toList

/-- The record of the statement at a position. -/
def instruction (s : Statement) (pc : Int) : Instruction :=
  ⟨pc, s.word, s.descriptor, s.assignment.map fun p => (.field p.1, p.2), s.aux⟩

theorem map_fst_assignment (s : Statement) :
    s.assignment.map (·.1) = s.descriptor.shape.fields :=
  List.map_fst_zip (Nat.le_of_eq s.length_values.symm)

theorem opcode_word (s : Statement) : Word.opcode s.word = s.descriptor.byte := by
  rw [Word.opcode, word, Field.bits_writeAll_of_below, Word.bits_put, Descriptor.byte_emod]
  intro p _
  exact (Nat.zero_add _).symm ▸ Field.opcodeWidth_le_low p.1

theorem bits_word (s : Statement) {f : Field} {v : Int} (h : (f, v) ∈ s.assignment) :
    Word.bits s.word f.low f.width = v % Word.weight f.width := by
  refine Field.bits_writeAll_of_mem ?_ h _
  rw [map_fst_assignment]
  exact Field.pairwise_below _

/-- **Any integer that holds the opcode and the values** is the word of the statement, written over
itself. -/
theorem word_eq_filler_iff (s : Statement) :
    s.word = s.filler ↔ Word.opcode s.filler = s.descriptor.byte ∧
      ∀ p ∈ s.assignment, Word.bits s.filler p.1.low p.1.width = p.2 % Word.weight p.1.width := by
  constructor
  · intro h
    rw [← h]
    exact ⟨s.opcode_word, fun p hp => s.bits_word hp⟩
  · rintro ⟨hopcode, hvalues⟩
    rw [word, Word.put_of_bits (hopcode.trans s.descriptor.byte_emod.symm),
      Field.writeAll_of_bits hvalues]

theorem operandIn_word (s : Statement) {f : Field} {v : Int} (h : (f, v) ∈ s.assignment) :
    s.descriptor.operandIn s.word f = v :=
  Descriptor.operandIn_of_bits (s.inRange _ h) (s.bits_word h)

-- a jump five words back, written over -1: the sign goes on above the word
example :
    word {
      descriptor := { name := "JUMPX", shape := .e, index := 67 }
      values := [-5]
      aux := none
      filler := -1
      mem_all := by decide +kernel
      length_values := rfl
      inRange := by decide
      isSome_aux := rfl } = -1175 := by decide

/-- **One statement**: its record says what its words say. -/
theorem genuine_instruction (s : Statement) (pc : Int) : (s.instruction pc).Genuine where
  ofByte_opcode := by
    rw [instruction, opcode_word]
    exact Descriptor.ofByte_eq_ok_iff.2 ⟨s.mem_all, rfl⟩
  operands_eq := by
    rw [instruction, Descriptor.operandsIn, ← map_fst_assignment, List.map_map]
    refine List.map_congr_left fun p hp => ?_
    rw [Function.comp_apply, operandIn_word s hp]
  isSome_aux := s.isSome_aux

end Statement

namespace Stream

/-! ### Programs -/

/-- The words of a program. -/
def encode (p : List Statement) : List Int := p.flatMap Statement.words

/-- **A program from a position on**: each statement stands behind the words of those before it. -/
theorem decodes_encode (pc : Int) (p : List Statement) :
    Decodes pc (encode p)
      (p.mapIdx fun k s => s.instruction (pc + (encode (p.take k)).length)) := by
  induction p generalizing pc with
  | nil => exact .nil pc
  | cons s p ih =>
    have hs := s.genuine_instruction pc
    have hpc : pc + (encode ((s :: p).take 0)).length = pc := Int.add_zero pc
    have hrest : (fun (k : Nat) (t : Statement) =>
        t.instruction (pc + (encode ((s :: p).take (k + 1))).length)) =
        fun k t => t.instruction (pc + (s.instruction pc).size + (encode (p.take k)).length) := by
      funext k t
      rw [← hs.length_words, List.take_succ_cons, encode, List.flatMap_cons, List.length_append,
        Int.natCast_add, ← Int.add_assoc]
      rfl
    rw [List.mapIdx_cons, hpc, hrest]
    exact .cons hs rfl (ih _)

/-- **Decoding undoes encoding.**  The instructions of an encoded program are its statements in
order, each at the number of words before it, whatever the fillers and the auxiliary words are; and
the byte in each word is the one that the name of its instruction leads to. -/
theorem decode_encode (p : List Statement) :
    (∀ s ∈ p, Descriptor.ofName s.descriptor.name = .ok s.descriptor) ∧
      decode (encode p) = .ok (p.mapIdx fun k s => s.instruction (encode (p.take k)).length) := by
  refine ⟨fun s _ => Descriptor.ofName_name _ s.mem_all, decode_eq_ok_iff.2 ?_⟩
  simpa only [Int.zero_add] using decodes_encode 0 p

end Stream

end LuauDisassembler
