/-!
# Reading the head of a text

A reader takes something from the head of a text, or fails.  Repetition is bounded by the text
itself: one turn for each character is enough for a reader that takes at least one at each turn.

* `Reader.many`: reads until there is nothing more of a kind.
-/

namespace LuauDisassembler.Toml

/-- Takes a value from the head of a text, or fails. -/
abbrev Reader := StateT (List Char) Option

namespace Reader

/-- Takes the longest run of characters of a class. -/
def takeWhile (p : Char → Bool) : Reader (List Char) := fun s =>
  some (s.takeWhile p, s.dropWhile p)

def skipWhile (p : Char → Bool) : Reader Unit := modify (·.dropWhile p)

/-- Takes the given characters, or fails. -/
def expect (t : List Char) : Reader Unit := fun s =>
  if t.isPrefixOf s then some ((), s.drop t.length) else none

/-- Whether the text begins with the given characters. -/
def startsWith (t : List Char) : Reader Bool := return t.isPrefixOf (← get)

/-- Takes the given characters if the text begins with them, and tells whether it does. -/
def accept (t : List Char) : Reader Bool := do
  if ← startsWith t then
    expect t
    return true
  return false

/-- Takes one of the given characters if the text begins with it, and tells whether it does. -/
def acceptOneOf (cs : List Char) : Reader Bool := do
  match ← get with
  | c :: s =>
    if c ∈ cs then
      set s
      return true
    return false
  | [] => return false

/-- Takes items until there is none, but at most one for each character of `bound`. -/
def manyAlong {α : Type} (item : Reader (Option α)) : List Char → Reader (List α)
  | [] => do
    match ← item with
    | none => return []
    | some _ => failure
  | _ :: bound => do
    match ← item with
    | none => return []
    | some a => return a :: (← manyAlong item bound)

/-- Takes items until there is none; each of them has to take at least one character. -/
def many {α : Type} (item : Reader (Option α)) : Reader (List α) := do manyAlong item (← get)

end Reader

end LuauDisassembler.Toml
