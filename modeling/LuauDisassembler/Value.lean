import LuauDisassembler.Calendar
import LuauDisassembler.Decimal.Shortest
import LuauDisassembler.Text.Quoted

/-!
# Configuration values

What a configuration document or a caller may give for a setting: a truth value, a number, a text, a
date, a list or a table, or nothing.  Reports show a value in one line.

* `Value`: the values; the entries of a table keep the order in which they were written.
* `Value.same`: whether two values are equal, number by number and entry by entry.
* `Value.literal`: a value as a report shows it, texts between quotes.
* `Value.plain`: the same without quotes around a text that is the whole value.
* `Value.kind`: the name of the kind of a value.
-/

namespace LuauDisassembler

open Text Decimal

/-- A value of a configuration document. -/
inductive Value
  | null
  | bool (b : Bool)
  | int (n : Int)
  | float (x : Binary64)
  | string (s : String)
  | list (items : List Value)
  | table (entries : List (String × Value))
  | date (d : Date)
  | clock (t : Clock)
  | moment (d : Date) (t : Clock) (offset : Option Offset)

/-! ## Equality -/

namespace Value

mutual

/-- Whether two values are equal. -/
def same : Value → Value → Bool
  | null, null => true
  | bool b, bool b' => b == b'
  | int n, int n' => n == n'
  | float x, float x' => x == x'
  | string s, string s' => s == s'
  | list items, list items' => sameItems items items'
  | table entries, table entries' => sameEntries entries entries'
  | date d, date d' => d == d'
  | clock t, clock t' => t == t'
  | moment d t offset, moment d' t' offset' => d == d' && t == t' && offset == offset'
  | _, _ => false

def sameItems : List Value → List Value → Bool
  | [], [] => true
  | v :: vs, w :: ws => v.same w && sameItems vs ws
  | _, _ => false

def sameEntries : List (String × Value) → List (String × Value) → Bool
  | [], [] => true
  | (k, v) :: es, (l, w) :: fs => k == l && v.same w && sameEntries es fs
  | _, _ => false

end

mutual

theorem same_iff (v w : Value) : v.same w = true ↔ v = w := by
  cases v with
  | list vs => cases w <;> simp [same, sameItems_iff vs]
  | table es => cases w <;> simp [same, sameEntries_iff es]
  | _ => cases w <;> simp [same, and_assoc]

theorem sameItems_iff (vs ws : List Value) : sameItems vs ws = true ↔ vs = ws := by
  cases vs with
  | nil => cases ws <;> simp [sameItems]
  | cons v vs => cases ws <;> simp [sameItems, same_iff v, sameItems_iff vs]

theorem sameEntries_iff (es fs : List (String × Value)) : sameEntries es fs = true ↔ es = fs := by
  match es, fs with
  | [], [] => simp [sameEntries]
  | [], _ :: _ => simp [sameEntries]
  | _ :: _, [] => simp [sameEntries]
  | (k, v) :: es, (l, w) :: fs => simp [sameEntries, same_iff v, sameEntries_iff es]

end

instance : DecidableEq Value := fun v w => decidable_of_iff _ (same_iff v w)

end Value

/-! ## Numbers -/

/-- How a number in double precision is laid out. -/
structure FloatLayout where
  /-- The point is written out from this many places before the first digit on. -/
  leadingZeros : Nat
  /-- The point is written out up to this many places behind the first digit. -/
  integerDigits : Nat
  /-- The least number of digits in an exponent. -/
  exponentDigits : Nat

/-- Numbers from `0.0001` to below `1e16` are written out, others with an exponent. -/
def Value.floatLayout : FloatLayout := ⟨3, 16, 2⟩

namespace FloatLayout

/-- The digits `ds`, of which `point` stand before the point, in positional notation. -/
def positional (ds : List Char) (point : Int) : List Char :=
  if point ≤ 0 then '0' :: '.' :: List.replicate (-point).toNat '0' ++ ds
  else if point < ds.length then ds.take point.toNat ++ '.' :: ds.drop point.toNat
  else ds ++ List.replicate (point - ds.length).toNat '0' ++ ['.', '0']

/-- The digits `ds`, one of which stands before the point, with an exponent. -/
def scientific (layout : FloatLayout) (ds : List Char) (exponent : Int) : List Char :=
  let fraction := ds.drop 1
  ds.take 1 ++ (if fraction.isEmpty then [] else '.' :: fraction) ++
    ['e', if exponent < 0 then '-' else '+'] ++
    numeral 10 layout.exponentDigits [] exponent.natAbs

/-- A positive number given by its digits and the power of ten of the last of them. -/
def ofDigits (layout : FloatLayout) (n : Nat) (k : Int) : List Char :=
  let ds := Nat.toDigits 10 n
  let point := ds.length + k
  let significant := (ds.reverse.dropWhile (· == '0')).reverse
  if -(layout.leadingZeros : Int) ≤ point ∧ point ≤ layout.integerDigits then
    positional significant point
  else layout.scientific significant (point - 1)

def text (layout : FloatLayout) : Binary64 → String
  | .nan => "nan"
  | .infinite negative => (if negative then "-" else "") ++ "inf"
  | .finite negative m e =>
    let digits :=
      if m = 0 then ['0', '.', '0'] else let (n, k) := shortest m e; layout.ofDigits n k
    (if negative then "-" else "") ++ String.ofList digits

end FloatLayout

/-! ## Dates -/

namespace Calendar

/-- Reports show a date as the expression that makes it. -/
def call (name : String) (arguments : List String) : String :=
  "datetime." ++ name ++ "(" ++ ", ".intercalate arguments ++ ")"

def dateArguments (d : Date) : List String :=
  [d.year, d.month, d.day].map fun (n : Nat) => decimal n

/-- Seconds and microseconds are left out from the end as long as they are zero. -/
def clockArguments (t : Clock) : List String :=
  let tail :=
    if t.microsecond ≠ 0 then [t.second, t.microsecond]
    else if t.second ≠ 0 then [t.second] else []
  (t.hour :: t.minute :: tail).map fun (n : Nat) => decimal n

/-- A negative distance counts back from the end of a day. -/
def offsetArgument (o : Offset) : String :=
  if o.minutes = 0 then "tzinfo=datetime.timezone.utc"
  else
    let seconds := o.minutes * 60
    let delta :=
      if seconds < 0 then ["days=-1", "seconds=" ++ decimal (seconds + 86400)]
      else ["seconds=" ++ decimal seconds]
    "tzinfo=" ++ call "timezone" [call "timedelta" delta]

def dateLiteral (d : Date) : String := call "date" (dateArguments d)

def clockLiteral (t : Clock) : String := call "time" (clockArguments t)

def momentLiteral (d : Date) (t : Clock) (offset : Option Offset) : String :=
  call "datetime" (dateArguments d ++ clockArguments t ++ (offset.map offsetArgument).toList)

end Calendar

/-! ## Values -/

namespace Value

mutual

/-- The value as a report shows it. -/
def literal : Value → String
  | null => "None"
  | bool true => "True"
  | bool false => "False"
  | int n => decimal n
  | float x => floatLayout.text x
  | string s => quoted s
  | list items => "[" ++ ", ".intercalate (literals items) ++ "]"
  | table entries => "\x7b" ++ ", ".intercalate (entryLiterals entries) ++ "\x7d"
  | date d => Calendar.dateLiteral d
  | clock t => Calendar.clockLiteral t
  | moment d t offset => Calendar.momentLiteral d t offset

def literals : List Value → List String
  | [] => []
  | v :: vs => v.literal :: literals vs

def entryLiterals : List (String × Value) → List String
  | [] => []
  | (k, v) :: es => (quoted k ++ ": " ++ v.literal) :: entryLiterals es

end

/-- The value without quotes around a text, and dates in the ISO notation. -/
def plain : Value → String
  | string s => s
  | date d => d.iso
  | clock t => t.iso
  | moment d t offset => d.iso ++ " " ++ t.iso ++ ((offset.map Offset.iso).getD "")
  | v => v.literal

/-- The name of the kind of a value. -/
def kind : Value → String
  | null => "NoneType"
  | bool _ => "bool"
  | int _ => "int"
  | float _ => "float"
  | string _ => "str"
  | list _ => "list"
  | table _ => "dict"
  | date _ => "datetime.date"
  | clock _ => "datetime.time"
  | moment _ _ _ => "datetime.datetime"

end Value

end LuauDisassembler
