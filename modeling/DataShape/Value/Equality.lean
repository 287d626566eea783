import DataShape.Numeric.Rounding
import DataShape.Value.Basic

/-!
# Equality of values

Numbers are compared by what they denote, so an integer equals the floating-point number with the
same value and no other: neither is rounded to the kind of the other without a look back.  Arrays
are equal item by item.  Maps are equal when they have equally many entries and every entry of the
one is found in the other, whatever the order.  A NaN equals nothing, so neither does a value that
contains one.

* `Value.equal` — the comparison.
-/

namespace DataShape

namespace Value

/-- Whether a floating-point number denotes the integer: it has no fractional part, the integer is
rounded to it, and cut off it is the integer again. -/
def integerEqualsFloat (n : Int) (x : Binary64) : Bool :=
  if !x.isFinite || x.fractionalUnits != 0 then false
  else if (Binary64.ofInt n).equal x then x.truncated? == some n
  else false

mutual

/-- Whether two values are equal. -/
def equal : Value → Value → Bool
  | .null, .null => true
  | .boolean a, .boolean b => a == b
  | .integer m, .integer n => m == n
  | .float x, .float y => x.equal y
  | .integer n, .float x => integerEqualsFloat n x
  | .float x, .integer n => integerEqualsFloat n x
  | .text s, .text t => s == t
  | .array items, .array others => equalItems items others
  | .map entries, .map others =>
    entries.length == others.length && foundEqual entries others
  | .foreign c shown, .foreign d other => c == d && shown == other
  | _, _ => false

/-- Whether two lists of values are equal item by item. -/
def equalItems : List Value → List Value → Bool
  | [], [] => true
  | item :: rest, other :: others => equal item other && equalItems rest others
  | _, _ => false

/-- Whether every entry has an equal value under the same key in the other map. -/
def foundEqual : List (Key × Value) → List (Key × Value) → Bool
  | [], _ => true
  | (key, value) :: rest, others =>
    (match Entries.lookup? key others with
      | some other => equal value other
      | none => false) && foundEqual rest others

end

end Value

end DataShape
