import DataShape.Entries
import DataShape.Numeric.Rounding

/-!
# JSON values

The values of JSON text.  A number is kept whole where it is written without point and exponent
and fits a signed or an unsigned 64-bit word; every other number is the nearest finite
floating-point number.

* `Json.Number` — a whole number of 64 bits, or a finite floating-point number.
* `Json.Number.signed?`, `Json.Number.unsigned?`, `Json.Number.float?` — the number as a word with
  or without a sign, and as a floating-point number.
* `Json` — a JSON value; the members of an object keep their order.
-/

namespace DataShape

/-- A number of JSON. -/
inductive Json.Number where
  /-- A whole number that fits a signed or an unsigned 64-bit word. -/
  | whole (n : Int) (fits : -Nat.pow 2 63 ≤ n ∧ n < Nat.pow 2 64)
  /-- Any other number, as the nearest finite floating-point number. -/
  | real (x : Binary64) (finite : x.isFinite = true)
deriving DecidableEq

/-- A JSON value. -/
inductive Json where
  | null
  | boolean (b : Bool)
  | number (n : Json.Number)
  | text (s : String)
  | array (items : List Json)
  | object (members : List (String × Json))
deriving Inhabited

namespace Json

/-- The whole number `n`, if it fits 64 bits. -/
def Number.ofInt? (n : Int) : Option Number :=
  if fits : -Nat.pow 2 63 ≤ n ∧ n < Nat.pow 2 64 then some (.whole n fits) else none

/-- A finite floating-point number. -/
def Number.ofBinary64? (x : Binary64) : Option Number :=
  if finite : x.isFinite = true then some (.real x finite) else none

/-- The number, if it is whole and fits a signed 64-bit word. -/
def Number.signed? : Number → Option Int
  | .whole n _ => if n < Nat.pow 2 63 then some n else none
  | .real _ _ => none

/-- The number, if it is whole and fits an unsigned 64-bit word. -/
def Number.unsigned? : Number → Option Nat
  | .whole n _ => if 0 ≤ n then some n.toNat else none
  | .real _ _ => none

/-- The number as a floating-point number, rounded if it is whole. -/
def Number.float? : Number → Option Binary64
  | .whole n _ => some (.ofInt n)
  | .real x _ => some x

end Json

end DataShape
