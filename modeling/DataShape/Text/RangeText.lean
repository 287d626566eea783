import DataShape.Text.Ranges

/-!
# Tables of ranges as text

A long table is easier to read as text: code points in hexadecimal, a minus sign between the first
and the last one of a range, and blanks between ranges.

* `Ranges.ofText` — the table that a text spells.
-/

namespace DataShape

namespace Ranges

/-- The value of a hexadecimal digit. -/
def hexDigit? (c : Char) : Option Nat :=
  if c.isDigit then some (c.toNat - '0'.toNat)
  else if 'A' ≤ c ∧ c ≤ 'F' then some (c.toNat - 'A'.toNat + 10)
  else none

/-- The range that was read: a code point, which may follow the first one of a range. -/
def spelled (first value : Option Nat) : Ranges :=
  match first, value with
  | some first, some last => [(first, last)]
  | none, some code => [(code, code)]
  | _, none => []

/-- Reads ranges, with the first code point of the current range and the digits behind it so far. -/
def ofChars (first value : Option Nat) : List Char → Ranges
  | [] => spelled first value
  | c :: rest =>
    match hexDigit? c with
    | some digit => ofChars first (some (16 * value.getD 0 + digit)) rest
    | none =>
      if c = '-' then ofChars value none rest
      else spelled first value ++ ofChars none none rest

/-- The table that a text spells. -/
def ofText (text : String) : Ranges := ofChars none none text.toList

end Ranges

end DataShape
