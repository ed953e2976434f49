import LuauDisassembler.Value

/-!
# Tables of a TOML document

The statements of a document build one tree of tables.  A table comes into being in one of three
ways: by a header that names it, by a dotted key that leads through it, or only because a header
leads through it.  The first two define the table; each table is defined at most once, but dotted
keys of the same section may lead through it again and again.  A value that was written in one
piece, inline tables and arrays included, is closed: nothing leads into it.

The sections of a document are numbered, and a table keeps the number of the section that defined
it.

* `Entries.put`: a dotted key gets a value.
* `Entries.openTable`, `Entries.openElement`: a header defines a table, or adds a table to an array.
* `Entries.modifyAt`: a change to the table to which a path of headers leads.
* `Entries.toTable`: the finished table.
-/

namespace LuauDisassembler.Toml

/-- What a key of an unfinished table stands for. -/
inductive Node
  /-- A closed value. -/
  | value (v : Value)
  /-- A table, and the section that defined it, if one did. -/
  | table (definedIn : Option Nat) (entries : List (String × Node))
  /-- An array of tables, of which the last one is open. -/
  | tables (earlier : List Value) (last : List (String × Node))

/-- An unfinished table, its keys in the order in which they came up. -/
abbrev Entries := List (String × Node)

mutual

/-- The finished value of a node. -/
def Node.toValue : Node → Value
  | .value v => v
  | .table _ entries => .table (finish entries)
  | .tables earlier last => .list (earlier ++ [.table (finish last)])

/-- The finished entries of a table. -/
def finish : List (String × Node) → List (String × Value)
  | [] => []
  | (k, n) :: es => (k, n.toValue) :: finish es

end

namespace Entries

def toTable (es : Entries) : Value := .table (finish es)

/-- Gives a node to a key, in the place of its old one if it has one. -/
def set (k : String) (n : Node) : Entries → Entries
  | [] => [(k, n)]
  | (k', n') :: es => if k' = k then (k, n) :: es else (k', n') :: set k n es

/-- Gives a value to a dotted key in the given section.  It may not have one yet, and its path may
lead only through tables that are undefined or defined in this section. -/
def put (here : Nat) : List String → Value → Entries → Option Entries
  | [], _, _ => none
  | [k], v, es =>
    match es.lookup k with
    | none => some (es.set k (.value v))
    | some _ => none
  | k :: path, v, es =>
    match es.lookup k with
    | none => (put here path v []).map fun inner => es.set k (.table (some here) inner)
    | some (.table definedIn inner) =>
      if definedIn.all (· == here) then
        (put here path v inner).map fun inner => es.set k (.table (some here) inner)
      else none
    | some _ => none

/-- Changes the table to which a path of headers leads.  Tables on the way come into being if they
are missing; of an array of tables the path takes the last. -/
def modifyAt (change : Entries → Option Entries) : List String → Entries → Option Entries
  | [], es => change es
  | k :: path, es =>
    match es.lookup k with
    | none => (modifyAt change path []).map fun inner => es.set k (.table none inner)
    | some (.table definedIn inner) =>
      (modifyAt change path inner).map fun inner => es.set k (.table definedIn inner)
    | some (.tables earlier last) =>
      (modifyAt change path last).map fun last => es.set k (.tables earlier last)
    | some (.value _) => none

/-- Defines the table of a key, which may have come into being but may not be defined yet. -/
def openTable (here : Nat) (k : String) (es : Entries) : Option Entries :=
  match es.lookup k with
  | none => some (es.set k (.table (some here) []))
  | some (.table none inner) => some (es.set k (.table (some here) inner))
  | some _ => none

/-- Adds an empty table to the array of tables of a key. -/
def openElement (k : String) (es : Entries) : Option Entries :=
  match es.lookup k with
  | none => some (es.set k (.tables [] []))
  | some (.tables earlier last) => some (es.set k (.tables (earlier ++ [toTable last]) []))
  | some _ => none

end Entries

/-! ## Statements -/

/-- A statement of a document. -/
inductive Statement
  | header (path : List String) (k : String)
  | arrayHeader (path : List String) (k : String)
  | assignment (path : List String) (v : Value)

/-- An unfinished document: its tables, the path of the current section, and the number of it. -/
structure Document where
  entries : Entries := []
  current : List String := []
  number : Nat := 0

namespace Document

/-- The document after one more statement. -/
def add (doc : Document) : Statement → Option Document
  | .header path k => do
    let entries ← doc.entries.modifyAt (Entries.openTable (doc.number + 1) k) path
    return ⟨entries, path ++ [k], doc.number + 1⟩
  | .arrayHeader path k => do
    let entries ← doc.entries.modifyAt (Entries.openElement k) path
    return ⟨entries, path ++ [k], doc.number + 1⟩
  | .assignment path v => do
    let entries ← doc.entries.modifyAt (Entries.put doc.number path v) doc.current
    return { doc with entries }

/-- The entries of the document that a list of statements makes. -/
def ofStatements (statements : List Statement) : Option (List (String × Value)) :=
  (statements.foldlM add {}).map fun doc => finish doc.entries

end Document

end LuauDisassembler.Toml
