import DataShape.Numeric.Binary64
import DataShape.Numeric.Decimal

/-!
# Integers and decimals as floating-point numbers

Every rounding goes to the nearest number, ties to the even significand.  An integer is rounded
once; past the largest finite number it becomes an infinity.  A decimal is read in several
roundings: its digits are rounded, the power of ten is rounded, and then their product or quotient
is.  What comes out may be a few places off the number nearest to the decimal, but it is the same
for every reader that follows these steps.

All quotients are of whole numbers, in units of `2 ^ -1074`.  The shift of a quotient is chosen so
that it has fifty-three bits, or is zero where the quotient is smaller than that; the word of the
rounded quotient is then one sum, because a quotient that is rounded up to the next power of two
carries into the exponent field by itself.

* `Binary64.nearestUnits`, `Binary64.nearestWord` — one rounding, as a magnitude and as a word.
* `Binary64.ofInt` — the number nearest to an integer.
* `Binary64.ofDecimal?` — the number that a decimal is read as.
-/

namespace DataShape

namespace Binary64

/-! ## One rounding -/

/-- `numerator / denominator` rounded to a whole number, ties to even. -/
def roundQuotient (numerator denominator : Nat) : Nat :=
  let quotient := numerator / denominator
  let twice := 2 * (numerator % denominator)
  if twice < denominator then quotient
  else if denominator < twice then quotient + 1
  else quotient + quotient % 2

/-- How many bits of a quotient lie below the fifty-three that a significand has. -/
def surplusBits (numerator denominator : Nat) : Nat := (numerator / denominator).log2 + 1 - 53

/-- The magnitude nearest to `numerator / denominator` units, as a number of units. -/
def nearestUnits (numerator denominator : Nat) : Nat :=
  let shift := surplusBits numerator denominator
  roundQuotient numerator (denominator * Nat.pow 2 shift) * Nat.pow 2 shift

/-- The word, without sign, of the number nearest to `numerator / denominator` units.  It is the
word of an infinity or above when the fraction rounds past the largest finite number. -/
def nearestWord (numerator denominator : Nat) : Nat :=
  let shift := surplusBits numerator denominator
  shift * Nat.pow 2 52 + roundQuotient numerator (denominator * Nat.pow 2 shift)

/-- The word of the positive infinity: the first one that is not of a finite number. -/
def infinityWord : Nat := 2047 * Nat.pow 2 52

/-- The number with the given sign and word. -/
def ofSignAndWord (negative : Bool) (magnitudeWord : Nat) : Binary64 :=
  ⟨UInt64.ofNat (if negative then Nat.pow 2 63 + magnitudeWord else magnitudeWord)⟩

/-- The number with the given sign and word, if the word is of a finite magnitude. -/
def ofWord? (negative : Bool) (magnitudeWord : Nat) : Option Binary64 :=
  if magnitudeWord < infinityWord then some (ofSignAndWord negative magnitudeWord) else none

/-! ## Integers -/

/-- The number nearest to an integer, or an infinity if that is past the largest finite number. -/
def ofInt (n : Int) : Binary64 :=
  let negative := decide (n < 0)
  let nearest? := ofWord? negative (nearestWord (n.natAbs * unitsPerOne) 1)
  nearest?.getD (ofSignAndWord negative infinityWord)

/-! ## Decimals -/

/-- The magnitude nearest to a whole number, as a number of units. -/
def wholeUnits (n : Nat) : Nat := nearestUnits (n * unitsPerOne) 1

/-- The largest power of ten of the format. -/
def mostTens : Nat := 308

/-- **The number that a decimal is read as**, unless it rounds past the largest finite one.  A power
of ten that the format does not have is divided by in two steps; below both, all that has at most
twenty digits is zero. -/
def ofDecimal? (negative : Bool) (d : Decimal) : Option Binary64 :=
  let digits := wholeUnits d.digits
  let tens := d.exponent.natAbs
  if d.digits = 0 then ofWord? negative 0
  else if 0 ≤ d.exponent then
    if tens ≤ mostTens then
      ofWord? negative (nearestWord (digits * wholeUnits (Nat.pow 10 tens)) unitsPerOne)
    else none
  else if tens ≤ mostTens then
    ofWord? negative (nearestWord (digits * unitsPerOne) (wholeUnits (Nat.pow 10 tens)))
  else if tens ≤ 2 * mostTens then
    let scaled := nearestUnits (digits * unitsPerOne) (wholeUnits (Nat.pow 10 mostTens))
    ofWord? negative (nearestWord (scaled * unitsPerOne) (wholeUnits (Nat.pow 10 (tens - mostTens))))
  else ofWord? negative 0

end Binary64

end DataShape
