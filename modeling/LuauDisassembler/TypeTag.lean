import LuauDisassembler.DecodeError

/-!
# Type tags

A type tag is a base type, with bit 7 set when the type is optional.  A tag is an integer of any
size and sign, and every bit but bit 7 belongs to the base.

* `TypeTag.base_add_optional`: a tag is its base, plus 128 if it is optional.
* `TypeTag.describe`: the name of a tag; only the base types of `BaseType` have one.
-/

namespace LuauDisassembler

/-- The base types that have a name. -/
inductive BaseType
  | nil | boolean | number | string | table | function | thread | userdata | vector | buffer | any
deriving DecidableEq, Repr

namespace BaseType

def all : List BaseType :=
  [nil, boolean, number, string, table, function, thread, userdata, vector, buffer, any]

def code : BaseType → Int
  | nil => 0
  | boolean => 1
  | number => 2
  | string => 3
  | table => 4
  | function => 5
  | thread => 6
  | userdata => 7
  | vector => 8
  | buffer => 9
  | any => 15

def name : BaseType → String
  | nil => "nil"
  | boolean => "boolean"
  | number => "number"
  | string => "string"
  | table => "table"
  | function => "function"
  | thread => "thread"
  | userdata => "userdata"
  | vector => "Vector3"
  | buffer => "buffer"
  | any => "any"

def ofCode? (n : Int) : Option BaseType := all.find? (·.code == n)

theorem ofCode?_code (t : BaseType) : ofCode? t.code = some t := by cases t <;> rfl

end BaseType

namespace TypeTag

/-- The bit that makes a type optional, as a number. -/
def optionalMask : Int := 128

/-- The first base that stands for a userdata type of the host. -/
def taggedUserdataFirst : Int := 64

/-- The base after the last one that stands for a userdata type of the host. -/
def taggedUserdataEnd : Int := 64 + 32

/-- A number that is no type tag. -/
def invalid : Int := 256

def isOptional (tag : Int) : Bool := tag / optionalMask % 2 == 1

/-- The tag without its optional bit. -/
def base (tag : Int) : Int := tag - optionalMask * (tag / optionalMask % 2)

def isTaggedUserdata (tag : Int) : Bool :=
  decide (taggedUserdataFirst ≤ base tag) && decide (base tag < taggedUserdataEnd)

/-- The name of a type, with a question mark behind an optional one if `suffix` is set. -/
def describe (tag : Int) (suffix : Bool) : Except DecodeError String :=
  match BaseType.ofCode? (base tag) with
  | none => .error (.unrepresentableType tag)
  | some t => .ok (if suffix && isOptional tag then t.name ++ "?" else t.name)

theorem base_add_optional (tag : Int) :
    base tag + (if isOptional tag then optionalMask else 0) = tag := by
  simp only [base, isOptional, optionalMask, beq_iff_eq]
  split <;> omega

end TypeTag

end LuauDisassembler
