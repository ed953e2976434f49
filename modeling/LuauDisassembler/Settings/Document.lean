import LuauDisassembler.Settings
import LuauDisassembler.Text.Layout
import LuauDisassembler.Toml.Parser

/-!
# Settings from a document

The settings of a document are the entries of its table `disasm` that have the names of settings.
All other entries count for nothing, as does the whole table if it is missing.

* `Settings.changesOf`: the changes that a table asks for.
* `Settings.ofEntries`: the settings of a document that has been read.
* `Settings.ofDocument`: the settings of a document.
-/

namespace LuauDisassembler

/-- A cause for which a document gives no settings. -/
inductive DocumentError
  /-- The document is not well formed. -/
  | malformed
  /-- The entry for the settings is no table. -/
  | notATable (value : Value)
  /-- A setting refuses its value. -/
  | setting (e : SettingError)
deriving DecidableEq

/-- The sentence that reports the cause. -/
def DocumentError.message : DocumentError → String
  | malformed => "Malformed settings document"
  | notATable v => "'" ++ v.kind ++ "' object has no attribute 'get'"
  | setting e => e.message

namespace Settings

/-- The key of the table that holds the settings. -/
def tableName : String := "disasm"

/-- The changes that the entries of a table ask for. -/
def changesOf (entries : List (String × Value)) : Changes := fun k => entries.lookup k.name

/-- The settings of a document with the given entries. -/
def ofEntries (entries : List (String × Value)) : Except DocumentError Settings :=
  match entries.lookup tableName with
  | none => .ok {}
  | some (.table es) => (ofChanges (changesOf es)).mapError .setting
  | some v => .error (.notATable v)

/-- The settings of a document. -/
def ofDocument (text : String) : Except DocumentError Settings :=
  match Toml.parse? (Text.unifyNewlines text.toList) with
  | none => .error .malformed
  | some entries => ofEntries entries

end Settings

end LuauDisassembler
