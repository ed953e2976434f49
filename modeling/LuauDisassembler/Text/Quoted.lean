import LuauDisassembler.Text.Numeral
import LuauDisassembler.Text.Printable

/-!
# Quoted text

A text is shown between quotes on one line.  The quote is an apostrophe, unless the text holds an
apostrophe and no double quote.  Inside, the quote itself and the backslash follow a backslash,
line feed, carriage return and tab are written `\n`, `\r` and `\t`, and every other character that
cannot be shown is written by its code point in two, four or eight hexadecimal digits.

* `quoted`: a text between its quotes.
* `escaped`: one character inside given quotes.
-/

namespace LuauDisassembler.Text

/-- The quote that is taken unless it alone occurs in the text. -/
def apostrophe : Char := '\x27'

/-- The quote that is taken otherwise. -/
def doubleQuote : Char := '\x22'

/-- A code point in the fewest of two, four or eight hexadecimal digits. -/
def codePoint (n : Nat) : List Char :=
  if n < 0x100 then '\\' :: 'x' :: numeral 16 2 [] n
  else if n < 0x10000 then '\\' :: 'u' :: numeral 16 4 [] n
  else '\\' :: 'U' :: numeral 16 8 [] n

/-- One character inside quotes of the given kind. -/
def escaped (quote c : Char) : List Char :=
  if c = quote ∨ c = '\\' then ['\\', c]
  else if c = '\n' then ['\\', 'n']
  else if c = '\r' then ['\\', 'r']
  else if c = '\t' then ['\\', 't']
  else if isPrintable c then [c]
  else codePoint c.toNat

/-- The quote that surrounds a text. -/
def quoteOf (s : List Char) : Char :=
  if apostrophe ∈ s ∧ doubleQuote ∉ s then doubleQuote else apostrophe

/-- The text between its quotes. -/
def quoted (s : String) : String :=
  let q := quoteOf s.toList
  String.ofList (q :: s.toList.flatMap (escaped q) ++ [q])

end LuauDisassembler.Text
