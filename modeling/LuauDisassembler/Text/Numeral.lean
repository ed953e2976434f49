/-!
# Numerals

A numeral is a sign, a mark for its base and digits.  Zeros between mark and digits bring the whole,
sign and mark counted, to a least width; a longer number simply takes more room.

Integers of every size are written and read.  A runtime may refuse decimal numerals that are too
long for it (of more than 4300 digits, unless it is told otherwise).  This is a limit like that of
memory, set for a process and not by the disassembler, and it is left out here and wherever a report
shows an integer or a document holds one.

* `numeral`: the characters of a number in a base.
* `decimal`: the plain decimal numeral.
* `numberOf`: the number that digits write in a base up to sixteen.
* `length_numeral`: a numeral is at least as long as its width.
-/

namespace LuauDisassembler.Text

/-- The digits of `i` in `base`, led by its sign and `mark`, with zeros up to `width`. -/
def numeral (base width : Nat) (mark : List Char) (i : Int) : List Char :=
  let sign := if i < 0 then ['-'] else []
  sign ++ mark ++ (Nat.toDigits base i.natAbs).leftpad (width - sign.length - mark.length) '0'

/-- The decimal numeral of an integer. -/
def decimal (i : Int) : String := String.ofList (numeral 10 0 [] i)

def isHexDigit (c : Char) : Bool :=
  c.isDigit || ('a' ≤ c && c ≤ 'f') || ('A' ≤ c && c ≤ 'F')

/-- The value of a digit; letters of either case continue behind nine. -/
def digitValue (c : Char) : Nat :=
  if c.isDigit then c.toNat - '0'.toNat
  else if 'a' ≤ c then c.toNat - 'a'.toNat + 10
  else c.toNat - 'A'.toNat + 10

/-- The number that digits write in a base, the highest digit first. -/
def numberOf (base : Nat) (digits : List Char) : Nat :=
  digits.foldl (fun n c => base * n + digitValue c) 0

theorem length_numeral (base width : Nat) (mark : List Char) (i : Int) :
    width ≤ (numeral base width mark i).length := by
  simp only [numeral, List.length_append, List.length_leftpad]
  omega

end LuauDisassembler.Text
