import LuauDisassembler.DecodeError
import LuauDisassembler.Opcode
import LuauDisassembler.Text.Quoted

/-!
# Dispatch of opcode bytes

An instruction is not stored under its own number.  The number is multiplied by a constant that is
coprime to 256, and the product modulo 256 is the byte that stands for it in a stream.  A dispatch
table turns the byte back into the instruction: it has one slot for each byte.

* `Descriptor.ofEntries`: numbers a list of entries by their positions, up to a sentinel.
* `DispatchTable.build`: the table of a list of descriptors, or the cause why there is none: too
  many of them, or two that want one slot.
* `DispatchTable.instructions`: the table of the instruction set itself; `DispatchTable.build_all`
  says that it is the one that `build` makes.
* `Descriptor.ofByte`, `Descriptor.ofName`: the look-ups of the instruction set.
-/

namespace LuauDisassembler

/-- The number of slots in a dispatch table, one for each opcode byte. -/
def slotCount : Nat := 256

/-- The factor that scatters the instruction numbers over the bytes. -/
def slotFactor : Int := 227

/-- The byte that stands for the instruction of a number; any integer is taken modulo 256. -/
def slotOf (index : Int) : Fin slotCount :=
  ⟨(index * slotFactor % 256).toNat, by
    have := Int.emod_lt_of_pos (index * slotFactor) (by decide : (0 : Int) < 256)
    simp only [slotCount]
    omega⟩

/-! ## Descriptors -/

/-- An entry together with its number. -/
structure Descriptor extends Entry where
  index : Int
deriving DecidableEq, Repr

/-- The name that ends a list of entries. -/
def endOfEntries : String := "_COUNT"

namespace Descriptor

/-- The byte that stands for the instruction. -/
def byte (d : Descriptor) : Fin slotCount := slotOf d.index

/-- The entries before the sentinel, each numbered by its position. -/
def ofEntries (entries : List Entry) : List Descriptor :=
  (entries.takeWhile (·.name != endOfEntries)).zipIdx.map fun (e, i) => { e with index := i }

/-- The descriptors of the instruction set. -/
def all : List Descriptor := ofEntries (Opcode.all.map (·.toEntry))

theorem length_all : all.length = 83 := by decide +kernel

end Descriptor

/-! ## Tables -/

/-- A cause for which no dispatch table can be made of a list of entries. -/
inductive TableError
  | tooManyOpcodes (count : Nat)
  /-- The slot `key` was wanted twice; `name` was there first. -/
  | keyTaken (key : Fin slotCount) (name : String)
  | unknownShape (name : String)
deriving DecidableEq, Repr

open Text in
/-- The sentence that reports the cause. -/
def TableError.message : TableError → String
  | tooManyOpcodes count => "Too many opcodes: " ++ decimal count
  | keyTaken key name => "Dispatch key " ++ decimal key.val ++ " taken by " ++ name
  | unknownShape name => quoted name ++ " is not a valid Shape"

/-- The shape of a name. -/
def Shape.named (name : String) : Except TableError Shape :=
  match Shape.ofName? name with
  | some s => .ok s
  | none => .error (.unknownShape name)

/-- For each opcode byte the descriptor that it stands for, if any. -/
abbrev DispatchTable := Vector (Option Descriptor) slotCount

namespace DispatchTable

def empty : DispatchTable := Vector.replicate slotCount none

/-- Puts a descriptor into its slot, which has to be free. -/
def insert (t : DispatchTable) (d : Descriptor) : Except TableError DispatchTable :=
  match t[d.byte] with
  | some earlier => .error (.keyTaken d.byte earlier.name)
  | none => .ok (t.set d.byte (some d))

/-- The table that holds each of the descriptors in its slot. -/
def build (ds : List Descriptor) : Except TableError DispatchTable :=
  if slotCount < ds.length then .error (.tooManyOpcodes ds.length)
  else ds.foldlM insert empty

/-- The descriptor of a byte; an integer that is no byte has none. -/
def get? (t : DispatchTable) (byte : Int) : Option Descriptor :=
  if byte < 0 then none else t[byte.toNat]?.join

/-- The occupied slots by ascending key, each with the name that it holds. -/
def occupied (t : DispatchTable) : List (Nat × String) :=
  t.toList.zipIdx.filterMap fun (slot, key) => slot.map fun d => (key, d.name)

/-- The dispatch table of the instruction set. -/
def instructions : DispatchTable := (build Descriptor.all).toOption.getD empty

theorem build_all : build Descriptor.all = .ok instructions := by
  have h : (build Descriptor.all).isOk = true := by decide +kernel
  unfold instructions
  match hb : build Descriptor.all with
  | .ok t => rfl
  | .error e => rw [hb] at h; nomatch h

end DispatchTable

/-! ## Look-ups -/

namespace Descriptor

/-- The instruction that an opcode byte stands for. -/
def ofByte (byte : Int) : Except DecodeError Descriptor :=
  match DispatchTable.instructions.get? byte with
  | some d => .ok d
  | none => .error (.unknownOpcode byte)

/-- The instruction of a name. -/
def ofName (name : String) : Except DecodeError Descriptor :=
  match all.find? (·.name == name) with
  | some d => .ok d
  | none => .error (.unknownName name)

end Descriptor

end LuauDisassembler
