import LuauDisassembler.Toml.Document
import LuauDisassembler.Toml.Scalar

/-!
# TOML documents

A document is a list of lines: a header, an assignment or nothing, and behind it a comment or
nothing.  Arrays go over several lines, with comments between the items and a comma behind the last
one if one likes; an inline table stays on its line and has no comma at its end.

* `value`: a value of any kind.
* `statements`: the statements of a document.
* `parse?`: the top-level table of a document, if it is well formed.
-/

namespace LuauDisassembler.Toml

open Reader

/-! ## Values -/

/-- Takes an array whose items are read by `item`. -/
def array (item : Reader Value) : Reader Value := do
  expect ['[']
  let items ← many do
    skipLines
    if ← startsWith [']'] then return none
    let v ← item
    skipLines
    unless ← accept [','] do guard (← startsWith [']'])
    return some v
  expect [']']
  return .list items

/-- Takes a key and its value. -/
def assignment (item : Reader Value) : Reader (List String × Value) := do
  let path ← key
  expect ['=']
  skipBlanks
  return (path, ← item)

/-- Takes an inline table whose values are read by `item`. -/
def inlineTable (item : Reader Value) : Reader Value := do
  expect ['\x7b']
  skipBlanks
  if ← accept ['\x7d'] then return .table []
  let first ← assignment item
  skipBlanks
  let others ← many do
    unless ← accept [','] do return none
    skipBlanks
    let next ← assignment item
    skipBlanks
    return some next
  expect ['\x7d']
  let entries ← (first :: others).foldlM (fun es (path, v) => Entries.put 0 path v es) []
  return Entries.toTable entries

/-- Takes a value in which arrays and tables are nested no deeper than `bound` is long. -/
def valueAlong : List Char → Reader Value
  | [] => failure
  | _ :: bound => do
    match ← get with
    | '"' :: '"' :: '"' :: _ => return .string (← longString)
    | '\x27' :: '\x27' :: '\x27' :: _ => return .string (← longString)
    | '"' :: _ => return .string (← lineString)
    | '\x27' :: _ => return .string (← lineString)
    | 't' :: _ =>
      expect "true".toList
      return .bool true
    | 'f' :: _ =>
      expect "false".toList
      return .bool false
    | '[' :: _ => array (valueAlong bound)
    | '\x7b' :: _ => inlineTable (valueAlong bound)
    | _ => scalar

/-- Takes a value; each level of nesting takes at least one character. -/
def value : Reader Value := do valueAlong (← get)

/-! ## Statements -/

/-- The path and the last part of a dotted key. -/
def splitKey (path : List String) : Reader (List String × String) :=
  match path.getLast? with
  | some k => return (path.dropLast, k)
  | none => failure

/-- Takes a header. -/
def header : Reader Statement := do
  if ← accept ['[', '['] then
    skipBlanks
    let (path, k) ← splitKey (← key)
    expect [']', ']']
    return .arrayHeader path k
  expect ['[']
  skipBlanks
  let (path, k) ← splitKey (← key)
  expect [']']
  return .header path k

/-- Takes the statement of a line, if the line has one. -/
def statement : Reader (Option Statement) := do
  match (← get).head? with
  | none => return none
  | some c =>
    if c = '\n' ∨ c = '#' then return none
    if c = '[' then return some (← header)
    let (path, v) ← assignment value
    return some (.assignment path v)

/-- Takes a line with its end; there is none at the end of the text. -/
def line : Reader (Option (Option Statement)) := do
  skipBlanks
  if (← get).isEmpty then return none
  let s ← statement
  skipBlanks
  skipComment
  unless (← get).isEmpty do expect ['\n']
  return some s

/-- Takes the statements of a whole document. -/
def statements : Reader (List Statement) := do return (← many line).filterMap id

/-- The entries of the top-level table of a document. -/
def parse? (text : List Char) : Option (List (String × Value)) := do
  let (ss, _) ← statements text
  Document.ofStatements ss

end LuauDisassembler.Toml
