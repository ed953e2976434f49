import LuauDisassembler.ByteOrder
import LuauDisassembler.Value

/-!
# Settings

What a listing shows, and how a binary stream is read.  Settings are changed by values of any kind,
each of which may turn out to be no value for its setting.  The changes are made in a fixed order,
and the first value that is refused ends them: those before it stay.

* `Settings.assign`: one setting gets a value, or the value is refused.
* `Settings.update`: a set of changes is made as far as they are accepted.
* `Settings.ofChanges`: the defaults with a set of changes, all of which have to be accepted.
-/

namespace LuauDisassembler

/-- What a listing shows, and the byte order of binary streams. -/
structure Settings where
  /-- Lines begin with the position of the instruction. -/
  showPc : Bool := true
  /-- Lines show the words of the instruction. -/
  showRaw : Bool := false
  byteOrder : ByteOrder := .little
  /-- Builtin functions are shown by their names instead of their numbers. -/
  resolveBuiltins : Bool := true
deriving DecidableEq, Repr

/-- The names of the settings. -/
inductive Setting
  | showPc | showRaw | byteOrder | resolveBuiltins
deriving DecidableEq, Repr

namespace Setting

/-- All settings, in the order in which changes are made. -/
def all : List Setting := [showPc, showRaw, byteOrder, resolveBuiltins]

def name : Setting → String
  | showPc => "show_pc"
  | showRaw => "show_raw"
  | byteOrder => "byteorder"
  | resolveBuiltins => "resolve_builtins"

theorem mem_all (k : Setting) : k ∈ all := by cases k <;> decide

end Setting

/-- A cause for which a setting refuses a value. -/
inductive SettingError
  | notBoolean (setting : Setting) (value : Value)
  | unsupportedByteOrder (value : Value)
deriving DecidableEq

/-- The sentence that reports the cause. -/
def SettingError.message : SettingError → String
  | notBoolean k v => "Setting " ++ k.name ++ " must be true or false, got " ++ v.literal
  | unsupportedByteOrder v => "Unsupported byte order " ++ v.plain

/-- The value that each setting is to get; no value, or a null value, leaves a setting alone. -/
abbrev Changes := Setting → Option Value

namespace Settings

/-- Gives a value to one setting. -/
def assign (s : Settings) : Setting → Value → Except SettingError Settings
  | .showPc, .bool b => .ok { s with showPc := b }
  | .showRaw, .bool b => .ok { s with showRaw := b }
  | .resolveBuiltins, .bool b => .ok { s with resolveBuiltins := b }
  | .byteOrder, .string t =>
    match ByteOrder.ofName? t with
    | some o => .ok { s with byteOrder := o }
    | none => .error (.unsupportedByteOrder (.string t))
  | .byteOrder, v => .error (.unsupportedByteOrder v)
  | k, v => .error (.notBoolean k v)

/-- Makes the changes to the listed settings, up to the first value that is refused. -/
def updateAll (changes : Changes) (s : Settings) : List Setting → Settings × Option SettingError
  | [] => (s, none)
  | k :: ks =>
    match changes k with
    | none | some .null => updateAll changes s ks
    | some v =>
      match s.assign k v with
      | .ok s => updateAll changes s ks
      | .error e => (s, some e)

/-- Makes the changes in the order of the settings, up to the first value that is refused.  The
settings that result are those changed until then. -/
def update (s : Settings) (changes : Changes) : Settings × Option SettingError :=
  updateAll changes s Setting.all

/-- The default settings with all of the changes. -/
def ofChanges (changes : Changes) : Except SettingError Settings :=
  match update {} changes with
  | (s, none) => .ok s
  | (_, some e) => .error e

end Settings

end LuauDisassembler
