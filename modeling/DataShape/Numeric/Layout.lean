import DataShape.Numeric.Shortest

/-!
# Layouts of decimal numbers

A `Layout` says how the digits of a number are chosen where two choices are equally near, and how
they are set: which numbers are written positionally and how an exponent is marked.  A positional
number always shows at least one digit on either side of the point; the digits before an exponent
show a point only if there are more than one.

* `Layout.decimal` — the text of a positive decimal.
* `Layout.number` — the text of a floating-point number.
-/

namespace DataShape

/-- How the digits of a number are set. -/
structure Layout where
  /-- The smallest power of ten of a first digit that is written positionally. -/
  least : Int
  /-- The largest power of ten of a first digit that is written positionally. -/
  most : Int
  /-- Whether a positive exponent carries a sign. -/
  signsExponent : Bool
  /-- Which of two equally near decimals is written. -/
  tie : Tie
deriving DecidableEq

namespace Layout

/-- Digits with a point before the first, after the last, or between, as `lead` says. -/
def positional (digits : List Char) (lead : Int) : List Char :=
  if lead < 0 then
    '0' :: '.' :: (List.replicate (-lead - 1).toNat '0' ++ digits)
  else if digits.length ≤ lead.toNat + 1 then
    digits ++ List.replicate (lead.toNat + 1 - digits.length) '0' ++ ['.', '0']
  else
    digits.take (lead.toNat + 1) ++ '.' :: digits.drop (lead.toNat + 1)

/-- Digits with a point after the first and the exponent of the first digit behind them. -/
def scientific (signs : Bool) (digits : List Char) (lead : Int) : List Char :=
  let mantissa := match digits with
    | first :: second :: rest => first :: '.' :: second :: rest
    | short => short
  let mark := if lead < 0 then ['e', '-'] else if signs then ['e', '+'] else ['e']
  mantissa ++ mark ++ Decimal.digitsOf lead.natAbs

/-- The text of a positive decimal. -/
def decimal (l : Layout) (d : Decimal) : List Char :=
  let lead := d.leadingExponent
  if l.least ≤ lead ∧ lead ≤ l.most then positional d.digitText lead
  else scientific l.signsExponent d.digitText lead

/-- The text of a floating-point number: the fewest digits that read back, a sign also on a
negative zero, and a word for what is not a number or not finite. -/
def number (l : Layout) (x : Binary64) : String :=
  if x.isNaN then "NaN"
  else
    let magnitude :=
      if !x.isFinite then ['i', 'n', 'f']
      else if x.significand = 0 then ['0', '.', '0']
      else l.decimal (x.shortest l.tie)
    String.ofList (if x.isNegative then '-' :: magnitude else magnitude)

end Layout

end DataShape
