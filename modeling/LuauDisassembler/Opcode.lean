import LuauDisassembler.Field

/-!
# The instruction set

One table says all that is fixed about each instruction: its name, the fields that it uses, whether
a second word (the auxiliary word) follows it, and what its operands stand for.  The position of a
row is the number of the instruction; the byte that stands for it in a stream is computed from that
number, not stored.

* `Opcode.all`: the table.
* `Opcode.named?`: the row of a name.
* `Opcode.rolesOf`, `Opcode.firstOf`: what the operands of a name stand for.  A name outside the
  table has no roles, and its first operand is a register.
-/

namespace LuauDisassembler

/-- What an operand other than `a` refers to. -/
inductive Role
  | register | constant | upvalue | jump
deriving DecidableEq, Repr

namespace Role

/-- The letter that marks the role in a listing. -/
def letter : Role → String
  | register => "R"
  | constant => "K"
  | upvalue => "U"
  | jump => "L"

end Role

/-- What the operand `a` of an instruction stands for. -/
inductive FirstOperand
  /-- A register. -/
  | register
  /-- The number of a builtin function. -/
  | builtin
  /-- The kind of a capture. -/
  | capture
  /-- A plain number. -/
  | count
deriving DecidableEq, Repr

/-- What the stream format has to know about an instruction. -/
structure Entry where
  name : String
  shape : Shape
  /-- An auxiliary word follows the instruction word. -/
  hasAux : Bool := false
deriving DecidableEq, Repr

/-- A row of the instruction set. -/
structure Opcode extends Entry where
  first : FirstOperand := .register
  roles : List (Field × Role) := []
deriving DecidableEq, Repr

/-- Jumps give their distance in the signed half or in the 24-bit field. -/
def jumpRoles : List (Field × Role) := [(.sd, .jump), (.e, .jump)]

/-- The instruction set, in the order of the instruction numbers. -/
def Opcode.all : List Opcode := [
  { name := "NOP", shape := .empty },
  { name := "BREAK", shape := .empty },
  { name := "LOADNIL", shape := .a },
  { name := "LOADB", shape := .abc, roles := [(.c, .jump)] },
  { name := "LOADN", shape := .asd },
  { name := "LOADK", shape := .ad, roles := [(.d, .constant)] },
  { name := "MOVE", shape := .ab, roles := [(.b, .register)] },
  { name := "GETGLOBAL", shape := .ac, hasAux := true },
  { name := "SETGLOBAL", shape := .ac, hasAux := true },
  { name := "GETUPVAL", shape := .ab, roles := [(.b, .upvalue)] },
  { name := "SETUPVAL", shape := .ab, roles := [(.b, .upvalue)] },
  { name := "CLOSEUPVALS", shape := .a },
  { name := "GETIMPORT", shape := .ad, hasAux := true, roles := [(.d, .constant)] },
  { name := "GETTABLE", shape := .abc, roles := [(.b, .register), (.c, .register)] },
  { name := "SETTABLE", shape := .abc, roles := [(.b, .register), (.c, .register)] },
  { name := "GETTABLEKS", shape := .abc, hasAux := true, roles := [(.b, .register)] },
  { name := "SETTABLEKS", shape := .abc, hasAux := true, roles := [(.b, .register)] },
  { name := "GETTABLEN", shape := .abc, roles := [(.b, .register)] },
  { name := "SETTABLEN", shape := .abc, roles := [(.b, .register)] },
  { name := "NEWCLOSURE", shape := .ad },
  { name := "NAMECALL", shape := .abc, hasAux := true, roles := [(.b, .register)] },
  { name := "CALL", shape := .abc },
  { name := "RETURN", shape := .ab },
  { name := "JUMP", shape := .sd, roles := jumpRoles },
  { name := "JUMPBACK", shape := .sd, roles := jumpRoles },
  { name := "JUMPIF", shape := .asd, roles := jumpRoles },
  { name := "JUMPIFNOT", shape := .asd, roles := jumpRoles },
  { name := "JUMPIFEQ", shape := .asd, hasAux := true, roles := jumpRoles },
  { name := "JUMPIFLE", shape := .asd, hasAux := true, roles := jumpRoles },
  { name := "JUMPIFLT", shape := .asd, hasAux := true, roles := jumpRoles },
  { name := "JUMPIFNOTEQ", shape := .asd, hasAux := true, roles := jumpRoles },
  { name := "JUMPIFNOTLE", shape := .asd, hasAux := true, roles := jumpRoles },
  { name := "JUMPIFNOTLT", shape := .asd, hasAux := true, roles := jumpRoles },
  { name := "ADD", shape := .abc, roles := [(.b, .register), (.c, .register)] },
  { name := "SUB", shape := .abc, roles := [(.b, .register), (.c, .register)] },
  { name := "MUL", shape := .abc, roles := [(.b, .register), (.c, .register)] },
  { name := "DIV", shape := .abc, roles := [(.b, .register), (.c, .register)] },
  { name := "MOD", shape := .abc, roles := [(.b, .register), (.c, .register)] },
  { name := "POW", shape := .abc, roles := [(.b, .register), (.c, .register)] },
  { name := "ADDK", shape := .abc, roles := [(.b, .register), (.c, .constant)] },
  { name := "SUBK", shape := .abc, roles := [(.b, .register), (.c, .constant)] },
  { name := "MULK", shape := .abc, roles := [(.b, .register), (.c, .constant)] },
  { name := "DIVK", shape := .abc, roles := [(.b, .register), (.c, .constant)] },
  { name := "MODK", shape := .abc, roles := [(.b, .register), (.c, .constant)] },
  { name := "POWK", shape := .abc, roles := [(.b, .register), (.c, .constant)] },
  { name := "AND", shape := .abc, roles := [(.b, .register), (.c, .register)] },
  { name := "OR", shape := .abc, roles := [(.b, .register), (.c, .register)] },
  { name := "ANDK", shape := .abc, roles := [(.b, .register), (.c, .constant)] },
  { name := "ORK", shape := .abc, roles := [(.b, .register), (.c, .constant)] },
  { name := "CONCAT", shape := .abc, roles := [(.b, .register), (.c, .register)] },
  { name := "NOT", shape := .ab, roles := [(.b, .register)] },
  { name := "MINUS", shape := .ab, roles := [(.b, .register)] },
  { name := "LENGTH", shape := .ab, roles := [(.b, .register)] },
  { name := "NEWTABLE", shape := .ab, hasAux := true },
  { name := "DUPTABLE", shape := .ad, roles := [(.d, .constant)] },
  { name := "SETLIST", shape := .abc, hasAux := true, roles := [(.b, .register)] },
  { name := "FORNPREP", shape := .asd, roles := jumpRoles },
  { name := "FORNLOOP", shape := .asd, roles := jumpRoles },
  { name := "FORGLOOP", shape := .asd, hasAux := true, roles := jumpRoles },
  { name := "FORGPREP_INEXT", shape := .a },
  { name := "FASTCALL3", shape := .abc, hasAux := true, first := .builtin,
    roles := [(.b, .register), (.c, .jump)] },
  { name := "FORGPREP_NEXT", shape := .a },
  { name := "NATIVECALL", shape := .empty },
  { name := "GETVARARGS", shape := .ab },
  { name := "DUPCLOSURE", shape := .ad, roles := [(.d, .constant)] },
  { name := "PREPVARARGS", shape := .a, first := .count },
  { name := "LOADKX", shape := .a, hasAux := true },
  { name := "JUMPX", shape := .e, roles := jumpRoles },
  { name := "FASTCALL", shape := .ac, first := .builtin, roles := [(.c, .jump)] },
  { name := "COVERAGE", shape := .e },
  { name := "CAPTURE", shape := .ab, first := .capture },
  { name := "SUBRK", shape := .abc, roles := [(.b, .constant), (.c, .register)] },
  { name := "DIVRK", shape := .abc, roles := [(.b, .constant), (.c, .register)] },
  { name := "FASTCALL1", shape := .abc, first := .builtin,
    roles := [(.b, .register), (.c, .jump)] },
  { name := "FASTCALL2", shape := .abc, hasAux := true, first := .builtin,
    roles := [(.b, .register), (.c, .jump)] },
  { name := "FASTCALL2K", shape := .abc, hasAux := true, first := .builtin,
    roles := [(.b, .register), (.c, .jump)] },
  { name := "FORGPREP", shape := .asd, roles := jumpRoles },
  { name := "JUMPXEQKNIL", shape := .asd, hasAux := true, roles := jumpRoles },
  { name := "JUMPXEQKB", shape := .asd, hasAux := true, roles := jumpRoles },
  { name := "JUMPXEQKN", shape := .asd, hasAux := true, roles := jumpRoles },
  { name := "JUMPXEQKS", shape := .asd, hasAux := true, roles := jumpRoles },
  { name := "IDIV", shape := .abc, roles := [(.b, .register), (.c, .register)] },
  { name := "IDIVK", shape := .abc, roles := [(.b, .register), (.c, .constant)] }]

namespace Opcode

/-- The row of an instruction name. -/
def named? (name : String) : Option Opcode := all.find? (·.name == name)

/-- The roles of the operands of an instruction, `a` left out. -/
def rolesOf (name : String) : List (Field × Role) := ((named? name).map (·.roles)).getD []

/-- What the operand `a` of an instruction stands for. -/
def firstOf (name : String) : FirstOperand := ((named? name).map (·.first)).getD .register

/-- The role of one operand of an instruction; a label that is no field has none. -/
def roleOf? (name : String) : Label → Option Role
  | .field f => (rolesOf name).lookup f
  | .foreign _ _ => none

theorem length_all : all.length = 83 := rfl

end Opcode

end LuauDisassembler
