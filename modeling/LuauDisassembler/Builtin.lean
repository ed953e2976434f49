import LuauDisassembler.Text.Quoted

/-!
# Builtin functions

The instructions of the fast-call family name a builtin function by its number.  A row of the
table gives the symbol that the format's own definition has for the function, and the name under
which scripts call it.  Several functions may share a name: an entry for constant arguments is
called like the general one.

* `Builtin.all`: the table; the position of a row is the number of the function.
* `Builtin.nameOf`: the name for a number; the numbers without a function are called `none`, like
  number 0.
* `Builtin.ofId`, `Builtin.idOfSymbol`: from number to row and from symbol to number, or the
  cause why there is none.
-/

namespace LuauDisassembler

/-- A builtin function. -/
structure Builtin where
  symbol : String
  name : String
deriving DecidableEq, Repr

/-- The builtin functions in the order of their numbers. -/
def Builtin.all : List Builtin := [
  { symbol := "LBF_NONE", name := "none" },
  { symbol := "LBF_ASSERT", name := "assert" },
  { symbol := "LBF_MATH_ABS", name := "math.abs" },
  { symbol := "LBF_MATH_ACOS", name := "math.acos" },
  { symbol := "LBF_MATH_ASIN", name := "math.asin" },
  { symbol := "LBF_MATH_ATAN2", name := "math.atan2" },
  { symbol := "LBF_MATH_ATAN", name := "math.atan" },
  { symbol := "LBF_MATH_CEIL", name := "math.ceil" },
  { symbol := "LBF_MATH_COSH", name := "math.cosh" },
  { symbol := "LBF_MATH_COS", name := "math.cos" },
  { symbol := "LBF_MATH_DEG", name := "math.deg" },
  { symbol := "LBF_MATH_EXP", name := "math.exp" },
  { symbol := "LBF_MATH_FLOOR", name := "math.floor" },
  { symbol := "LBF_MATH_FMOD", name := "math.fmod" },
  { symbol := "LBF_MATH_FREXP", name := "math.frexp" },
  { symbol := "LBF_MATH_LDEXP", name := "math.ldexp" },
  { symbol := "LBF_MATH_LOG10", name := "math.log10" },
  { symbol := "LBF_MATH_LOG", name := "math.log" },
  { symbol := "LBF_MATH_MAX", name := "math.max" },
  { symbol := "LBF_MATH_MIN", name := "math.min" },
  { symbol := "LBF_MATH_MODF", name := "math.modf" },
  { symbol := "LBF_MATH_POW", name := "math.pow" },
  { symbol := "LBF_MATH_RAD", name := "math.rad" },
  { symbol := "LBF_MATH_SINH", name := "math.sinh" },
  { symbol := "LBF_MATH_SIN", name := "math.sin" },
  { symbol := "LBF_MATH_SQRT", name := "math.sqrt" },
  { symbol := "LBF_MATH_TANH", name := "math.tanh" },
  { symbol := "LBF_MATH_TAN", name := "math.tan" },
  { symbol := "LBF_BIT32_ARSHIFT", name := "bit32.arshift" },
  { symbol := "LBF_BIT32_BAND", name := "bit32.band" },
  { symbol := "LBF_BIT32_BNOT", name := "bit32.bnot" },
  { symbol := "LBF_BIT32_BOR", name := "bit32.bor" },
  { symbol := "LBF_BIT32_BXOR", name := "bit32.bxor" },
  { symbol := "LBF_BIT32_BTEST", name := "bit32.btest" },
  { symbol := "LBF_BIT32_EXTRACT", name := "bit32.extract" },
  { symbol := "LBF_BIT32_LROTATE", name := "bit32.lrotate" },
  { symbol := "LBF_BIT32_LSHIFT", name := "bit32.lshift" },
  { symbol := "LBF_BIT32_REPLACE", name := "bit32.replace" },
  { symbol := "LBF_BIT32_RROTATE", name := "bit32.rrotate" },
  { symbol := "LBF_BIT32_RSHIFT", name := "bit32.rshift" },
  { symbol := "LBF_TYPE", name := "type" },
  { symbol := "LBF_STRING_BYTE", name := "string.byte" },
  { symbol := "LBF_STRING_CHAR", name := "string.char" },
  { symbol := "LBF_STRING_LEN", name := "string.len" },
  { symbol := "LBF_TYPEOF", name := "typeof" },
  { symbol := "LBF_STRING_SUB", name := "string.sub" },
  { symbol := "LBF_MATH_CLAMP", name := "math.clamp" },
  { symbol := "LBF_MATH_SIGN", name := "math.sign" },
  { symbol := "LBF_MATH_ROUND", name := "math.round" },
  { symbol := "LBF_RAWSET", name := "rawset" },
  { symbol := "LBF_RAWGET", name := "rawget" },
  { symbol := "LBF_RAWEQUAL", name := "rawequal" },
  { symbol := "LBF_TABLE_INSERT", name := "table.insert" },
  { symbol := "LBF_TABLE_UNPACK", name := "table.unpack" },
  { symbol := "LBF_VECTOR", name := "Vector3.new" },
  { symbol := "LBF_BIT32_COUNTLZ", name := "bit32.countlz" },
  { symbol := "LBF_BIT32_COUNTRZ", name := "bit32.countrz" },
  { symbol := "LBF_SELECT_VARARG", name := "select" },
  { symbol := "LBF_RAWLEN", name := "rawlen" },
  { symbol := "LBF_BIT32_EXTRACTK", name := "bit32.extract" },
  { symbol := "LBF_GETMETATABLE", name := "getmetatable" },
  { symbol := "LBF_SETMETATABLE", name := "setmetatable" },
  { symbol := "LBF_TONUMBER", name := "tonumber" },
  { symbol := "LBF_TOSTRING", name := "tostring" },
  { symbol := "LBF_BIT32_BYTESWAP", name := "bit32.byteswap" },
  { symbol := "LBF_BUFFER_READI8", name := "buffer.readi8" },
  { symbol := "LBF_BUFFER_READU8", name := "buffer.readu8" },
  { symbol := "LBF_BUFFER_WRITEU8", name := "buffer.writeu8" },
  { symbol := "LBF_BUFFER_READI16", name := "buffer.readi16" },
  { symbol := "LBF_BUFFER_READU16", name := "buffer.readu16" },
  { symbol := "LBF_BUFFER_WRITEU16", name := "buffer.writeu16" },
  { symbol := "LBF_BUFFER_READI32", name := "buffer.readi32" },
  { symbol := "LBF_BUFFER_READU32", name := "buffer.readu32" },
  { symbol := "LBF_BUFFER_WRITEU32", name := "buffer.writeu32" },
  { symbol := "LBF_BUFFER_READF32", name := "buffer.readf32" },
  { symbol := "LBF_BUFFER_WRITEF32", name := "buffer.writef32" },
  { symbol := "LBF_BUFFER_READF64", name := "buffer.readf64" },
  { symbol := "LBF_BUFFER_WRITEF64", name := "buffer.writef64" },
  { symbol := "LBF_VECTOR_MAGNITUDE", name := "vector.magnitude" },
  { symbol := "LBF_VECTOR_NORMALIZE", name := "vector.normalize" },
  { symbol := "LBF_VECTOR_CROSS", name := "vector.cross" },
  { symbol := "LBF_VECTOR_DOT", name := "vector.dot" },
  { symbol := "LBF_VECTOR_FLOOR", name := "vector.floor" },
  { symbol := "LBF_VECTOR_CEIL", name := "vector.ceil" },
  { symbol := "LBF_VECTOR_ABS", name := "vector.abs" },
  { symbol := "LBF_VECTOR_SIGN", name := "vector.sign" },
  { symbol := "LBF_VECTOR_CLAMP", name := "vector.clamp" },
  { symbol := "LBF_VECTOR_MIN", name := "vector.min" },
  { symbol := "LBF_VECTOR_MAX", name := "vector.max" }]

/-- A look-up in the table of builtin functions that finds nothing. -/
inductive BuiltinError
  | noSuchId (id : Int)
  | noSuchSymbol (symbol : String)
deriving DecidableEq, Repr

/-- The sentence that reports the cause; an unknown symbol is just shown. -/
def BuiltinError.message : BuiltinError → String
  | noSuchId id => Text.decimal id ++ " is not a valid BuiltinFunction"
  | noSuchSymbol symbol => Text.quoted symbol

namespace Builtin

/-- The function of a number. -/
def ofId? (id : Int) : Option Builtin := if id < 0 then none else all[id.toNat]?

def ofId (id : Int) : Except BuiltinError Builtin :=
  match ofId? id with
  | some b => .ok b
  | none => .error (.noSuchId id)

/-- The number of the function with a symbol. -/
def idOfSymbol (symbol : String) : Except BuiltinError Nat :=
  match all.findIdx? (·.symbol == symbol) with
  | some i => .ok i
  | none => .error (.noSuchSymbol symbol)

/-- The name under which a listing shows a builtin function. -/
def nameOf (id : Int) : String := ((ofId? id).map (·.name)).getD "none"

theorem length_all : all.length = 89 := rfl

end Builtin

end LuauDisassembler
