/-!
# Binary floating-point numbers

A `Binary64` is the 64-bit word of a binary floating-point number: a sign bit, eleven exponent
bits and fifty-two fraction bits.  Nothing in this library computes with such numbers; they are
compared, printed and turned into integers.  Each of these questions is about the
exact value, so the value is read off the word as an integer: a finite number is a whole number
of units `2 ^ -1074`, the smallest positive number of the format, and `scaled` says how many.

* `Binary64.scaled` — the number of units, with its sign.
* `Binary64.equal` — numeric equality: zeros of both signs are equal, a NaN equals nothing.
* `Binary64.truncated?` — the integer that is left when the fractional part is cut off.
-/

namespace DataShape

/-- A binary floating-point number, given by its word. -/
structure Binary64 where
  /-- The word: sign, exponent field and fraction from the top. -/
  bits : UInt64
deriving DecidableEq, Inhabited

namespace Binary64

/-! ## Fields of the word -/

/-- The word as a natural number. -/
def word (x : Binary64) : Nat := x.bits.toNat

/-- Whether the sign bit is set. -/
def isNegative (x : Binary64) : Bool := decide (Nat.pow 2 63 ≤ x.word)

/-- The eleven exponent bits. -/
def exponentField (x : Binary64) : Nat := x.word / Nat.pow 2 52 % Nat.pow 2 11

/-- The fifty-two fraction bits. -/
def fraction (x : Binary64) : Nat := x.word % Nat.pow 2 52

/-- Whether the number is neither an infinity nor a NaN. -/
def isFinite (x : Binary64) : Bool := x.exponentField != 2047

/-- Whether the word is one of the NaNs. -/
def isNaN (x : Binary64) : Bool := x.exponentField == 2047 && x.fraction != 0

/-- The NaN that stands for all of them: positive, with only the first bit of the fraction set. -/
def nan : Binary64 := ⟨0x7ff8000000000000⟩

/-! ## The exact value -/

/-- The significand: the fraction, with the hidden bit above it unless the exponent field is
zero. -/
def significand (x : Binary64) : Nat :=
  if x.exponentField = 0 then x.fraction else Nat.pow 2 52 + x.fraction

/-- The power of two, counted from the unit `2 ^ -1074`, that the significand is a multiple of.
The exponent fields zero and one share it. -/
def shift (x : Binary64) : Nat := x.exponentField - 1

/-- The magnitude as a number of units. -/
def magnitude (x : Binary64) : Nat := x.significand * Nat.pow 2 x.shift

/-- The value as a signed number of units.  An infinity has a count of its own, beyond that of
every finite number. -/
def scaled (x : Binary64) : Int := if x.isNegative then -(x.magnitude : Int) else x.magnitude

/-- One, as a number of units. -/
def unitsPerOne : Nat := Nat.pow 2 1074

/-! ## Comparison -/

/-- **Numeric equality.**  Two numbers are equal when they have the same value; a NaN has none. -/
def equal (x y : Binary64) : Bool := !x.isNaN && !y.isNaN && x.scaled == y.scaled

/-! ## Integers -/

/-- The fractional part of the magnitude, as a number of units. -/
def fractionalUnits (x : Binary64) : Nat := x.magnitude % unitsPerOne

/-- The integer that is left when the fractional part of a finite number is cut off. -/
def truncated? (x : Binary64) : Option Int :=
  if x.isFinite then some (x.scaled.tdiv unitsPerOne) else none

end Binary64

end DataShape
