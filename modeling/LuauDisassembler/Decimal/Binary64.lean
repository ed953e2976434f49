/-!
# Numbers in double precision

A finite number in double precision is a sign, a significand below two to the power 53, and a power
of two.  A decimal is stored as the nearest such number, and one that lies halfway between two
goes to the even significand.  Zero keeps its sign.

* `Binary64.ofScientific`: the number nearest to `digits * 10 ^ exponent`.
* `floorLog`: the largest power of a base that does not exceed a positive number.
* `roundEven`: the nearest integer, halves to the even neighbour.
-/

namespace LuauDisassembler.Decimal

/-- A number in double precision. -/
inductive Binary64
  | finite (negative : Bool) (significand : Nat) (exponent : Int)
  | infinite (negative : Bool)
  | nan
deriving DecidableEq, Repr

/-- The largest exponent `k` with `base ^ k ≤ x`, for a positive `x`. -/
def floorLog (base : Nat) (x : Rat) : Int :=
  let k : Int := (Nat.toDigits base x.num.natAbs).length - (Nat.toDigits base x.den).length
  if Rat.zpow base k ≤ x then k else k - 1

/-- The nearest integer; a half goes to the even neighbour. -/
def roundEven (x : Rat) : Int :=
  let n := x.floor
  if x - n < 1 / 2 then n
  else if 1 / 2 < x - n then n + 1
  else n + n % 2

namespace Binary64

/-- The number of bits in a significand. -/
def precision : Nat := 53

/-- The exponent of the smallest steps. -/
def leastExponent : Int := -1074

/-- The exponent of the largest steps. -/
def greatestExponent : Int := 971

/-- The decimal magnitudes beyond which a number is infinite or zero in any case. -/
def decimalRange : Int := 400

/-- The number nearest to a positive rational. -/
def ofPositive (negative : Bool) (x : Rat) : Binary64 :=
  let e := max (floorLog 2 x + 1 - precision) leastExponent
  let m := (roundEven (x / Rat.zpow 2 e)).toNat
  let (m, e) := if m = Nat.pow 2 precision then (Nat.pow 2 (precision - 1), e + 1) else (m, e)
  if greatestExponent < e then infinite negative else finite negative m e

/-- The number nearest to `digits * 10 ^ exponent`, with its sign. -/
def ofScientific (negative : Bool) (digits : Nat) (exponent : Int) : Binary64 :=
  let magnitude := (Nat.toDigits 10 digits).length + exponent
  if digits = 0 ∨ magnitude < -decimalRange then finite negative 0 leastExponent
  else if decimalRange < magnitude then infinite negative
  else ofPositive negative (digits * Rat.zpow 10 exponent)

end Binary64

end LuauDisassembler.Decimal
