import LuauDisassembler.Text.Numeral

/-!
# Dates and times

Configuration documents may hold dates and times of day, with or without an offset from universal
time.  Both are shown in the ISO notation.

* `Date.isValid`: whether a date exists in the Gregorian calendar of the years 1 to 9999.
* `Date.iso`, `Clock.iso`, `Offset.iso`: the notation.
-/

namespace LuauDisassembler

open Text

/-- A number in at least the given count of decimal digits. -/
def decimalDigits (width n : Nat) : String := String.ofList (numeral 10 width [] n)

/-! ## Dates -/

structure Date where
  year : Nat
  month : Nat
  day : Nat
deriving DecidableEq, Repr

namespace Date

def isLeapYear (year : Nat) : Bool := year % 4 == 0 && (year % 100 != 0 || year % 400 == 0)

/-- The number of days in a month, none in what is no month. -/
def daysInMonth (year month : Nat) : Nat :=
  if month = 2 then if isLeapYear year then 29 else 28
  else if month ∈ [4, 6, 9, 11] then 30
  else if 1 ≤ month ∧ month ≤ 12 then 31
  else 0

def isValid (d : Date) : Bool :=
  decide (1 ≤ d.year ∧ d.year ≤ 9999 ∧ 1 ≤ d.day ∧ d.day ≤ daysInMonth d.year d.month)

def iso (d : Date) : String :=
  decimalDigits 4 d.year ++ "-" ++ decimalDigits 2 d.month ++ "-" ++ decimalDigits 2 d.day

end Date

/-! ## Times of day -/

structure Clock where
  hour : Nat
  minute : Nat
  second : Nat
  microsecond : Nat
deriving DecidableEq, Repr

/-- The notation of a time of day; microseconds are left out when there are none. -/
def Clock.iso (t : Clock) : String :=
  decimalDigits 2 t.hour ++ ":" ++ decimalDigits 2 t.minute ++ ":" ++ decimalDigits 2 t.second ++
    if t.microsecond = 0 then "" else "." ++ decimalDigits 6 t.microsecond

/-! ## Offsets -/

/-- A distance from universal time. -/
structure Offset where
  minutes : Int
deriving DecidableEq, Repr

def Offset.iso (o : Offset) : String :=
  (if o.minutes < 0 then "-" else "+") ++ decimalDigits 2 (o.minutes.natAbs / 60) ++ ":" ++
    decimalDigits 2 (o.minutes.natAbs % 60)

end LuauDisassembler
