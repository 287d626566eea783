/-!
# Decimal numbers

A `Decimal` is a whole number of some power of ten.  It is what a decimal text denotes before it
is rounded to a format, and what a number is written as once its digits have been chosen.

* `Decimal.integerText` — the text of an integer.
* `Decimal.valueOf` — the number that digits spell.
* `Decimal.digitText` — the significant digits, without trailing zeros.
* `Decimal.leadingExponent` — the power of ten of the first significant digit.
-/

namespace DataShape

/-- The number `digits * 10 ^ exponent`. -/
structure Decimal where
  /-- The digits as one whole number. -/
  digits : Nat
  /-- The power of ten that the digits count. -/
  exponent : Int
deriving DecidableEq, Inhabited

namespace Decimal

/-- The decimal digits of a natural number, most significant first. -/
def digitsOf (n : Nat) : List Char := Nat.toDigits 10 n

/-- The text of an integer: its digits, after a minus sign if it is negative. -/
def integerChars (n : Int) : List Char :=
  if n < 0 then '-' :: digitsOf n.natAbs else digitsOf n.natAbs

/-- The text of an integer. -/
def integerText (n : Int) : String := String.ofList (integerChars n)

/-- How many decimal digits a natural number has; zero has one. -/
def digitCount (n : Nat) : Nat := (digitsOf n).length

/-- The natural number that decimal digits spell. -/
def valueOf (digits : List Char) : Nat :=
  digits.foldl (fun value digit => 10 * value + (digit.toNat - '0'.toNat)) 0

/-- The significant digits of a decimal, without the zeros at the end. -/
def digitText (d : Decimal) : List Char :=
  ((digitsOf d.digits).reverse.dropWhile (· == '0')).reverse

/-- The power of ten of the first digit. -/
def leadingExponent (d : Decimal) : Int := d.exponent + digitCount d.digits - 1

end Decimal

end DataShape
