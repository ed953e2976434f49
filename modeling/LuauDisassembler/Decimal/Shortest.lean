import LuauDisassembler.Decimal.Binary64

/-!
# The shortest decimal of a number

A number in double precision stands for all reals that round to it, an interval around its exact
value.  It is shown by the decimal in that interval that has the fewest digits, and by the nearest
of those if there are several.

The search goes through ever finer decimal grids.  If a point of a grid lies in the interval, then
so does one of the two that enclose the exact value; so these two decide.

* `Interval.around`: the reals that round to a number.
* `Interval.onGrid?`: the point of a grid that is nearest to the exact value, if it lies within.
* `shortest`: the digits and the power of ten of the shortest decimal.
-/

namespace LuauDisassembler.Decimal

/-- A range of reals, with or without its two ends. -/
structure Interval where
  low : Rat
  high : Rat
  closed : Bool

namespace Interval

/-- The reals that round to the number `m * 2 ^ e`.  Below a power of two the numbers lie closer. -/
def around (m : Nat) (e : Int) : Interval where
  low :=
    if m = Nat.pow 2 (Binary64.precision - 1) ∧ Binary64.leastExponent < e then
      (m - 1 / 4) * Rat.zpow 2 e
    else (m - 1 / 2) * Rat.zpow 2 e
  high := (m + 1 / 2) * Rat.zpow 2 e
  closed := m % 2 == 0

def contains (i : Interval) (x : Rat) : Bool :=
  if i.closed then decide (i.low ≤ x) && decide (x ≤ i.high)
  else decide (i.low < x) && decide (x < i.high)

/-- The multiple of `10 ^ k` within the interval that is nearest to `x`, an even one of two. -/
def onGrid? (i : Interval) (x : Rat) (k : Int) : Option Nat :=
  let step := Rat.zpow 10 k
  let below := (x / step).floor.toNat
  let above := below + 1
  let nearer := (roundEven (x / step)).toNat
  if i.contains (nearer * step) then some nearer
  else if i.contains (below * step) then some below
  else if i.contains (above * step) then some above
  else none

end Interval

/-- The fewest digits whose decimal rounds to the positive number `m * 2 ^ e`, and the power of ten
that scales them.  Seventeen digits always suffice. -/
def shortest (m : Nat) (e : Int) : Nat × Int :=
  let x : Rat := m * Rat.zpow 2 e
  let top := floorLog 10 x
  let grids := (List.range 17).map fun (n : Nat) => top - (n : Int)
  (grids.findSome? fun k => ((Interval.around m e).onGrid? x k).map fun n => (n, k)).getD (0, 0)

end LuauDisassembler.Decimal
