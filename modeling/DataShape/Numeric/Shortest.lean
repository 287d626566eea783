import DataShape.Numeric.Binary64
import DataShape.Numeric.Decimal

/-!
# The fewest digits that read back

A number is written with as few significant digits as still tell it from every other number of the
format.  The reals that round to `x` form an interval around it, whose ends belong to it exactly
when the significand is even; a decimal reads back as `x` when it lies in that interval.  For one,
two, ... digits the two decimals next to `x` are tried, and the first count of digits at which one
of them reads back wins; if both do, the nearer one is taken.  Which of two equally near ones it is,
is up to the caller.

Everything is compared in whole numbers: the interval's ends are counted in quarters of the unit
`2 ^ -1074`, because the distance to the next number below is halved at a power of two.

* `Tie` — which of two equally near decimals is taken.
* `Binary64.readsBack` — whether a decimal lies in the interval of `x`.
* `Binary64.shortest` — the chosen decimal.
-/

namespace DataShape

/-- Which of two equally near decimals is taken. -/
inductive Tie where
  /-- The larger one. -/
  | up
  /-- The one whose last digit is even. -/
  | even
deriving DecidableEq

namespace Binary64

/-! ## The interval of a number -/

/-- The magnitude in quarter units. -/
def quarters (x : Binary64) : Nat := 4 * x.significand * Nat.pow 2 x.shift

/-- The upper end of the interval in quarter units: half way to the next number above. -/
def upperQuarters (x : Binary64) : Nat := (4 * x.significand + 2) * Nat.pow 2 x.shift

/-- The lower end of the interval in quarter units: half way to the next number below, which is
only half as far away when `x` is a power of two above the smallest exponent. -/
def lowerQuarters (x : Binary64) : Nat :=
  if x.fraction = 0 ∧ 0 < x.shift then (4 * x.significand - 1) * Nat.pow 2 x.shift
  else (4 * x.significand - 2) * Nat.pow 2 x.shift

/-- Whether the ends of the interval round to `x`: a tie goes to the even significand. -/
def ownsEnds (x : Binary64) : Bool := x.significand % 2 == 0

/-! ## Decimals on a grid

At the power of ten `e` a number of quarter units and a number of steps `10 ^ e` are compared
after multiplication by `grain e` and `stride e`.
-/

/-- What a count of quarter units is multiplied by on the grid of `10 ^ e`. -/
def grain (e : Int) : Nat := Nat.pow 10 (-e).toNat

/-- What a count of steps is multiplied by on the grid of `10 ^ e`. -/
def stride (e : Int) : Nat := Nat.pow 10 e.toNat * Nat.pow 2 1076

/-- Whether the decimal lies in the interval of reals that round to the magnitude of `x`. -/
def readsBack (x : Binary64) (d : Decimal) : Bool :=
  let point := d.digits * stride d.exponent
  let low := x.lowerQuarters * grain d.exponent
  let high := x.upperQuarters * grain d.exponent
  if x.ownsEnds then decide (low ≤ point ∧ point ≤ high) else decide (low < point ∧ point < high)

/-- The largest decimal on the grid of `10 ^ e` that is not above the magnitude of `x`. -/
def below (x : Binary64) (e : Int) : Nat := x.quarters * grain e / stride e

/-- The nearer to the magnitude of `x` of `n` and `n + 1` steps of `10 ^ e`. -/
def nearer (x : Binary64) (tie : Tie) (n : Nat) (e : Int) : Decimal :=
  let twice := 2 * (x.quarters * grain e)
  let middle := (2 * n + 1) * stride e
  if twice < middle ∨ (twice = middle ∧ tie = .even ∧ n % 2 = 0) then ⟨n, e⟩ else ⟨n + 1, e⟩

/-- The decimal on the grid of `10 ^ e` that is chosen for `x`, if one reads back. -/
def onGrid? (x : Binary64) (tie : Tie) (e : Int) : Option Decimal :=
  let n := x.below e
  match x.readsBack ⟨n, e⟩, x.readsBack ⟨n + 1, e⟩ with
  | true, true => some (x.nearer tie n e)
  | true, false => some ⟨n, e⟩
  | false, true => some ⟨n + 1, e⟩
  | false, false => none

/-! ## The choice -/

/-- The power of ten of the first significant digit of a magnitude.  The magnitude is scaled by
`10 ^ 342`, which makes every positive one a number of at least nineteen digits. -/
def magnitudeExponent (x : Binary64) : Int :=
  (Decimal.digitCount (x.quarters * Nat.pow 10 342 / Nat.pow 2 1076) : Int) - 343

/-- The nearest decimal with seventeen digits. -/
def seventeenDigits (x : Binary64) (tie : Tie) : Decimal :=
  let e := x.magnitudeExponent - 16
  x.nearer tie (x.below e) e

/-- **The fewest digits that read back.**  Seventeen are always enough, so they need no test. -/
def shortest (x : Binary64) (tie : Tie) : Decimal :=
  ((List.range 16).findSome? fun (k : Nat) => x.onGrid? tie (x.magnitudeExponent - k)).getD
    (x.seventeenDigits tie)

end Binary64

end DataShape
