import LuauDisassembler.Instruction

/-!
# Instruction streams

A stream is decoded from its first word to its last, each instruction beginning where the one before
it ends.  The walk stops at the first word that begins no instruction; what was read until then is
kept beside the cause, since a trace of the walk shows it.

* `Stream.walk`: the instructions met on the way through a stream, and what stopped it.
* `Stream.decode`: all instructions of a stream, or the cause why it cannot be decoded.
* `Stream.instructionAt`: the one instruction at a position, wherever the walk would go.
-/

namespace LuauDisassembler

/-- The instructions met on the way through a stream, and the cause that ended it early. -/
structure Walk where
  instructions : List Instruction
  failure : Option DecodeError
deriving DecidableEq

/-- The walk that meets `i` first. -/
def Walk.cons (i : Instruction) (k : Walk) : Walk := { k with instructions := i :: k.instructions }

/-- The instructions of a complete walk. -/
def Walk.result (k : Walk) : Except DecodeError (List Instruction) :=
  match k.failure with
  | none => .ok k.instructions
  | some e => .error e

namespace Stream

/-- The walk over the words from `pc` to the end of a stream of the given length. -/
def walkFrom (length : Nat) (pc : Int) (words : List Int) : Walk :=
  match words with
  | [] => ⟨[], none⟩
  | w :: rest =>
    match _h : Instruction.read length pc (w :: rest) with
    | .error e => ⟨[], some e⟩
    | .ok (i, rest) => (walkFrom length (pc + i.size) rest).cons i
termination_by words.length
decreasing_by exact Instruction.length_lt_of_read ‹_›

/-- The walk over a whole stream. -/
def walk (words : List Int) : Walk := walkFrom words.length 0 words

/-- The instructions of a stream. -/
def decode (words : List Int) : Except DecodeError (List Instruction) := (walk words).result

/-- The instruction at a position of a stream; there is none outside it. -/
def instructionAt (words : List Int) (pc : Int) : Except DecodeError Instruction :=
  if pc < 0 then .error (.truncated pc words.length)
  else (Instruction.read words.length pc (words.drop pc.toNat)).map (·.1)

end Stream

end LuauDisassembler
