import DataShape.Json.Basic
import DataShape.Value.Basic

/-!
# Values from JSON

Every JSON value is a value: whole numbers become integers, all other numbers floating-point
numbers, and the members of an object the entries of a map with text keys, in the same order.  Like
every map it keeps one entry for a key.

* `Value.ofJson` — the conversion.
-/

namespace DataShape

namespace Value

/-- The value of a JSON number: an integer if it fits a signed or else an unsigned 64-bit word, and
a floating-point number otherwise. -/
def ofNumber (n : Json.Number) : Value :=
  match n.signed? with
  | some i => .integer i
  | none =>
    match n.unsigned? with
    | some u => .integer u
    -- No number is without a nearest one of these, so the NaN is never taken.
    | none => .float (n.float?.getD .nan)

mutual

/-- The value that a JSON value denotes. -/
def ofJson : Json → Value
  | .null => .null
  | .boolean b => .boolean b
  | .number n => ofNumber n
  | .text s => .text s
  | .array items => .array (ofItems items)
  | .object members => .map (Entries.ofList (ofMembers members))

/-- The values of the items of an array. -/
def ofItems : List Json → List Value
  | [] => []
  | item :: rest => ofJson item :: ofItems rest

/-- The entries that the members of an object denote, one for each of them. -/
def ofMembers : List (String × Json) → List (Key × Value)
  | [] => []
  | (name, value) :: rest => (.text name, ofJson value) :: ofMembers rest

end

end Value

end DataShape
