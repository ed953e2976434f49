/-!
# Positions in a text

A place in a text is told by its line and its column, both counted from one.  Only a line feed
begins a new line, and every other character, a carriage return included, takes one column.

* `Position.after`: the place behind a stretch of text.
-/

namespace LuauDisassembler.Text

/-- A place in a text, by line and column from one. -/
structure Position where
  line : Nat
  column : Nat
deriving DecidableEq, Repr

/-- The place behind the text `s`. -/
def Position.after (s : List Char) : Position where
  line := 1 + s.count '\n'
  column := 1 + (s.reverse.takeWhile (· != '\n')).length

end LuauDisassembler.Text
