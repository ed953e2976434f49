import LuauDisassembler.Dispatch

/-!
# Instructions

An instruction takes one word, and a second one, the auxiliary word, when its opcode asks for it.
The record keeps both words as they were read, together with the operands found in the first.

* `Descriptor.operandsIn`: the operands that a word holds for an instruction.
* `Instruction.read`: the instruction at the head of the rest of a stream, and what is left.
* `Instruction.operand?`: the value of an operand.  A record that was put together by hand may name
  an operand twice, and then its last value counts.
* `Instruction.length_lt_of_read`: reading consumes at least one word.
-/

namespace LuauDisassembler

/-- The instruction whose 24-bit field is a signed distance; elsewhere the field is a counter. -/
def longJump : String := "JUMPX"

namespace Descriptor

/-- The value that a word holds in a field of this instruction. -/
def operandIn (d : Descriptor) (w : Int) (f : Field) : Int :=
  if f = .e ∧ d.name = longJump then f.signed w else f.read w

/-- The operands that a word holds for this instruction, in the order of its shape. -/
def operandsIn (d : Descriptor) (w : Int) : List (Label × Int) :=
  d.shape.fields.map fun f => (.field f, d.operandIn w f)

/-- The number of words that the instruction takes. -/
def size (d : Descriptor) : Nat := if d.hasAux then 2 else 1

end Descriptor

/-- An instruction at a position of a stream. -/
structure Instruction where
  pc : Int
  word : Int
  descriptor : Descriptor
  operands : List (Label × Int)
  aux : Option Int
deriving DecidableEq

namespace Instruction

def name (i : Instruction) : String := i.descriptor.name

def size (i : Instruction) : Nat := i.descriptor.size

/-- The words that the record holds. -/
def words (i : Instruction) : List Int := i.word :: i.aux.toList

/-- The last value that the record gives to a label. -/
def operand? (i : Instruction) (l : Label) : Option Int := i.operands.reverse.lookup l

/-- Each label once, in the order of first mention, with the last value given to it. -/
def operandMap (i : Instruction) : List (Label × Int) :=
  (i.operands.map (·.1)).eraseDups.filterMap fun l => (i.operand? l).map fun v => (l, v)

/-- The instruction that `w` and its auxiliary word make at `pc`. -/
def ofWords (pc : Int) (d : Descriptor) (w : Int) (aux : Option Int) : Instruction :=
  ⟨pc, w, d, d.operandsIn w, aux⟩

/-- Reads the instruction at `pc` of a stream of the given length.  The words are those from `pc`
to the end of the stream; those behind the instruction are returned with it. -/
def read (length : Nat) (pc : Int) : List Int → Except DecodeError (Instruction × List Int)
  | [] => .error (.truncated pc length)
  | w :: rest =>
    match Descriptor.ofByte (Word.opcode w) with
    | .error e => .error e
    | .ok d =>
      if d.hasAux then
        match rest with
        | [] => .error (.truncated pc length)
        | aux :: rest => .ok (ofWords pc d w (some aux), rest)
      else .ok (ofWords pc d w none, rest)

theorem length_lt_of_read {length : Nat} {pc : Int} {words rest : List Int} {i : Instruction}
    (h : read length pc words = .ok (i, rest)) : rest.length < words.length := by
  unfold read at h
  split at h
  · nomatch h
  · rename_i w tail
    split at h
    · nomatch h
    · split at h
      · split at h
        · nomatch h
        · cases h
          simp only [List.length_cons]
          omega
      · cases h
        simp

end Instruction

end LuauDisassembler
