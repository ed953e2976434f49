import LuauDisassembler.Builtin
import LuauDisassembler.Kind
import LuauDisassembler.Settings
import LuauDisassembler.Stream

/-!
# Listings

A listing shows each instruction in one line: its position, its words, its name and its operands,
the first two only if the settings ask for them.  An operand is a register, a constant, an upvalue
or a label, as its role says; a label is shown by the position that it stands for, which is counted
from the instruction behind the jump.  The auxiliary word comes last, in brackets.

* `Instruction.destination`: the position to which an instruction may jump.
* `Instruction.operandTokens`: the operands as they are shown.
* `Instruction.line`: the whole line.
* `Listing.ofStream`, `Listing.lineAt`: the lines of a stream, and the line at one position of it.
-/

namespace LuauDisassembler

open Text

namespace Instruction

/-! ## Operands -/

/-- The position to which a distance leads; it is counted from the next word on. -/
def labelled (i : Instruction) (distance : Int) : Int := i.pc + 1 + distance

/-- The position to which the first label among the operands leads. -/
def destination (i : Instruction) : Option Int :=
  (Opcode.rolesOf i.name).findSome? fun (f, r) =>
    if r = .jump then (i.operand? f).map i.labelled else none

/-- The operand `a`, as the instruction understands it. -/
def firstToken (s : Settings) (name : String) (a : Int) : String :=
  match Opcode.firstOf name with
  | .register => "R" ++ decimal a
  | .builtin => if s.resolveBuiltins then Builtin.nameOf a else decimal a
  | .capture => ((CaptureKind.ofCode? a).map (·.name)).getD (decimal a)
  | .count => decimal a

/-- An operand as it is shown.  Every mention of `a` shows the value that counts for it. -/
def operandToken (i : Instruction) (s : Settings) : Label × Int → String
  | (.field .a, v) => firstToken s i.name ((i.operand? Field.a).getD v)
  | (l, v) =>
    match Opcode.roleOf? i.name l with
    | some .jump => Role.jump.letter ++ decimal (i.labelled v)
    | some r => r.letter ++ decimal v
    | none => decimal v

/-- The auxiliary word as it is shown. -/
def auxToken (aux : Int) : String :=
  "[" ++ String.ofList (numeral 16 10 ['0', 'x'] aux) ++ "]"

/-- The operands and the auxiliary word as they are shown. -/
def operandTokens (i : Instruction) (s : Settings) : List String :=
  i.operands.map (i.operandToken s) ++ (i.aux.map auxToken).toList

/-! ## Lines -/

/-- The width of the column for the words of an instruction. -/
def rawWidth : Nat := 17

/-- A word in eight hexadecimal digits. -/
def rawWord (w : Int) : List Char := (numeral 16 8 [] w).map Char.toUpper

/-- The words of the instruction, as wide as two words of the usual size. -/
def rawColumn (i : Instruction) : String :=
  String.ofList ((List.intercalate [' '] (i.words.map rawWord)).rightpad rawWidth ' ')

/-- The position in at least four digits. -/
def pcColumn (i : Instruction) : String := String.ofList (numeral 10 4 [] i.pc)

/-- The columns of the line that shows the instruction. -/
def columns (i : Instruction) (s : Settings) : List String :=
  (if s.showPc then [i.pcColumn] else []) ++ (if s.showRaw then [i.rawColumn] else []) ++
    i.name :: i.operandTokens s

/-- The line that shows the instruction. -/
def line (i : Instruction) (s : Settings) : String := " ".intercalate (i.columns s)

end Instruction

/-! ## Listings -/

namespace Listing

/-- The lines of a stream. -/
def ofStream (words : List Int) (s : Settings) : Except DecodeError (List String) :=
  (Stream.decode words).map fun is => is.map (·.line s)

/-- The line of the instruction at a position of a stream. -/
def lineAt (words : List Int) (pc : Int) (s : Settings) : Except DecodeError String :=
  (Stream.instructionAt words pc).map (·.line s)

end Listing

end LuauDisassembler
