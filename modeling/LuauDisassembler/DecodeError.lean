import LuauDisassembler.Text.Numeral
import LuauDisassembler.Text.Position

/-!
# Why bytecode cannot be decoded

The causes for which a stream, a dump or a type table is refused, and the sentence that reports
each of them.
-/

namespace LuauDisassembler

/-- A cause for which bytecode cannot be decoded. -/
inductive DecodeError
  /-- No instruction has this opcode byte. -/
  | unknownOpcode (byte : Int)
  /-- No instruction has this name. -/
  | unknownName (name : String)
  /-- The type tag has no name. -/
  | unrepresentableType (tag : Int)
  /-- The stream of the given length ends before the instruction at `pc` does. -/
  | truncated (pc : Int) (length : Nat)
  /-- The word dump holds something that is no part of one. -/
  | malformedDump (position : Text.Position)
deriving DecidableEq, Repr

open Text in
/-- The sentence that reports the cause. -/
def DecodeError.message : DecodeError → String
  | unknownOpcode byte => "Unknown opcode " ++ decimal byte
  | unknownName name => "Unknown opcode " ++ name
  | unrepresentableType tag => "Unrepresentable type tag " ++ decimal tag
  | truncated pc length =>
    "Instruction stream truncated at " ++ decimal pc ++ " (length " ++ decimal length ++ ")"
  | malformedDump p =>
    "Malformed word dump at line " ++ decimal p.line ++ ", column " ++ decimal p.column

end LuauDisassembler
