import LuauDisassembler.Word

/-!
# Kinds of constants, captures and functions

Small closed sets that the bytecode format numbers: the kinds of an entry in the constant table,
the kinds of a captured variable, and the flags of a function.

* `ConstantKind.ofCode?`, `CaptureKind.ofCode?`: the kind of a number, if it has one.
* `FunctionFlag.isSet`: whether a flag is set in a number; a negative number has all high bits set.
* `FunctionFlag.namesIn`: the names of the set flags, lowest bit first.
-/

namespace LuauDisassembler

/-! ## Constants -/

/-- The kinds of an entry in the constant table. -/
inductive ConstantKind
  | nil | boolean | number | string | imported | table | closure | vector
deriving DecidableEq, Repr

namespace ConstantKind

def all : List ConstantKind := [nil, boolean, number, string, imported, table, closure, vector]

def code : ConstantKind → Int
  | nil => 0
  | boolean => 1
  | number => 2
  | string => 3
  | imported => 4
  | table => 5
  | closure => 6
  | vector => 7

def name : ConstantKind → String
  | nil => "nil"
  | boolean => "boolean"
  | number => "number"
  | string => "string"
  | imported => "import"
  | table => "table"
  | closure => "closure"
  | vector => "vector"

def ofCode? (n : Int) : Option ConstantKind := all.find? (·.code == n)

theorem ofCode?_code (k : ConstantKind) : ofCode? k.code = some k := by cases k <;> rfl

end ConstantKind

/-! ## Captures -/

/-- How a closure holds a captured variable: by value, by reference, or as an upvalue of its own. -/
inductive CaptureKind
  | value | reference | upvalue
deriving DecidableEq, Repr

namespace CaptureKind

def all : List CaptureKind := [value, reference, upvalue]

def code : CaptureKind → Int
  | value => 0
  | reference => 1
  | upvalue => 2

def name : CaptureKind → String
  | value => "VAL"
  | reference => "REF"
  | upvalue => "UPVAL"

def ofCode? (n : Int) : Option CaptureKind := all.find? (·.code == n)

theorem ofCode?_code (k : CaptureKind) : ofCode? k.code = some k := by cases k <;> rfl

end CaptureKind

/-! ## Function flags -/

/-- The flags of a function: it belongs to a module that is compiled natively, native compilation
does not pay for it, or its module has a function that asks for native compilation. -/
inductive FunctionFlag
  | nativeModule | nativeCold | nativeFunction
deriving DecidableEq, Repr

namespace FunctionFlag

def all : List FunctionFlag := [nativeModule, nativeCold, nativeFunction]

/-- The position of the flag's bit. -/
def bit : FunctionFlag → Nat
  | nativeModule => 0
  | nativeCold => 1
  | nativeFunction => 2

def name : FunctionFlag → String
  | nativeModule => "NATIVE_MODULE"
  | nativeCold => "NATIVE_COLD"
  | nativeFunction => "NATIVE_FUNCTION"

/-- The number in which this flag alone is set. -/
def mask (f : FunctionFlag) : Int := Word.weight f.bit

def isSet (f : FunctionFlag) (flags : Int) : Bool := Word.bits flags f.bit 1 == 1

end FunctionFlag

/-- The names of the flags that are set, lowest bit first. -/
def FunctionFlag.namesIn (flags : Int) : List String :=
  (FunctionFlag.all.filter (·.isSet flags)).map (·.name)

end LuauDisassembler
