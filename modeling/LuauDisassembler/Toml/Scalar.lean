import LuauDisassembler.Toml.Text
import LuauDisassembler.Value

/-!
# Numbers and dates of TOML

A number may have single underscores between its digits; a decimal one has no leading zeros, and it
is an integer unless a fraction or an exponent follows.  Four digits and a hyphen begin a date, two
digits and a colon a time of day.

* `number`: an integer, or a number in double precision.
* `moment`: a date, with or without a time of day and an offset.
* `clock`: a time of day.
-/

namespace LuauDisassembler.Toml

open Reader Decimal LuauDisassembler.Text

/-! ## Numbers -/

/-- Whether single underscores stand between digits only. -/
def wellGrouped : List Char → Bool
  | [] => false
  | ['_'] => false
  | '_' :: _ => false
  | c :: '_' :: s => c != '_' && wellGrouped s
  | [_] => true
  | _ :: s => wellGrouped s

/-- Takes the digits of a class, which may be grouped by underscores. -/
def digits (isDigit : Char → Bool) : Reader (List Char) := do
  let run ← takeWhile fun c => isDigit c || c == '_'
  guard (wellGrouped run)
  return run.filter (· != '_')

/-- Takes an integer behind the mark of its base. -/
def based (mark : Char) (base : Nat) (isDigit : Char → Bool) : Reader Value := do
  expect ['0', mark]
  let ds ← digits isDigit
  return .int (numberOf base ds)

/-- Takes a sign, if there is one, and tells whether it is a minus. -/
def sign : Reader Bool := do
  if ← accept ['-'] then return true
  let _ ← accept ['+']
  return false

/-- Takes the digits of a fraction, if there is one. -/
def fraction : Reader (Option (List Char)) := do
  if ← accept ['.'] then return some (← digits Char.isDigit)
  return none

/-- Takes an exponent, if there is one. -/
def exponent : Reader (Option Int) := do
  if ← acceptOneOf ['e', 'E'] then
    let negative ← sign
    let n := numberOf 10 (← digits Char.isDigit)
    return some (if negative then -n else n)
  return none

/-- Takes a decimal number. -/
def decimalNumber : Reader Value := do
  let negative ← sign
  let whole ← digits Char.isDigit
  guard (whole.length = 1 ∨ whole.head? ≠ some '0')
  let part ← fraction
  let scale ← exponent
  if part.isNone && scale.isNone then
    let n : Int := numberOf 10 whole
    return .int (if negative then -n else n)
  else
    let part := part.getD []
    return .float (Binary64.ofScientific negative (numberOf 10 (whole ++ part))
      (scale.getD 0 - part.length))

/-- Takes the name of a number that has no digits. -/
def namedNumber : Reader Value := do
  let negative ← sign
  if ← accept "inf".toList then return .float (.infinite negative)
  expect "nan".toList
  return .float .nan

def number : Reader Value := do
  if ← startsWith ['0', 'x'] then based 'x' 16 isHexDigit
  else if ← startsWith ['0', 'o'] then based 'o' 8 fun c => '0' ≤ c && c ≤ '7'
  else if ← startsWith ['0', 'b'] then based 'b' 2 fun c => c == '0' || c == '1'
  else decimalNumber <|> namedNumber

/-! ## Dates and times -/

/-- Takes a number of exactly `n` digits. -/
def fixedDigits (n : Nat) : Reader Nat := do
  let ds := (← get).take n
  guard (ds.length = n ∧ ds.all Char.isDigit)
  set ((← get).drop n)
  return numberOf 10 ds

/-- Takes a number of two digits that does not exceed `most`. -/
def twoDigits (most : Nat) : Reader Nat := do
  let n ← fixedDigits 2
  guard (n ≤ most)
  return n

/-- Takes the microseconds behind a point, if there are any; finer digits are dropped. -/
def microseconds : Reader Nat := do
  if ← accept ['.'] then
    let ds ← takeWhile Char.isDigit
    guard !ds.isEmpty
    return numberOf 10 ((ds.take 6).rightpad 6 '0')
  return 0

def clock : Reader Clock := do
  let hour ← twoDigits 23
  expect [':']
  let minute ← twoDigits 59
  expect [':']
  let second ← twoDigits 59
  return ⟨hour, minute, second, ← microseconds⟩

def date : Reader Date := do
  let year ← fixedDigits 4
  expect ['-']
  let month ← fixedDigits 2
  expect ['-']
  let day ← fixedDigits 2
  let d : Date := ⟨year, month, day⟩
  guard d.isValid
  return d

/-- Takes an offset from universal time, if there is one. -/
def offset : Reader (Option Offset) := do
  if ← acceptOneOf ['Z', 'z'] then return some ⟨0⟩
  unless (← startsWith ['+']) || (← startsWith ['-']) do return none
  let negative ← sign
  let hours ← twoDigits 23
  expect [':']
  let minutes : Int := hours * 60 + (← twoDigits 59)
  return some ⟨if negative then -minutes else minutes⟩

/-- Takes the time of day that belongs to a date.  A blank may also end the date. -/
def clockOfDate : Reader (Option (Clock × Option Offset)) := do
  if ← acceptOneOf ['T', 't'] then return some (← clock, ← offset)
  (do expect [' ']; return some (← clock, ← offset)) <|> return none

def moment : Reader Value := do
  let d ← date
  match ← clockOfDate with
  | none => return .date d
  | some (t, o) => return .moment d t o

/-- Takes a number, a date or a time of day. -/
def scalar : Reader Value := do
  let s ← get
  if (s.take 4).all Char.isDigit && s[4]? == some '-' then moment
  else if (s.take 2).all Char.isDigit && s[2]? == some ':' then return .clock (← clock)
  else number

end LuauDisassembler.Toml
