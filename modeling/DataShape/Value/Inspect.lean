import DataShape.Numeric.Layout
import DataShape.Text.Quoted
import DataShape.Value.Basic

/-!
# The text that shows a value

Every message names values by their inspect text: scalars as in source code, text quoted, arrays
in brackets, maps in braces with text keys quoted and other keys bare, and a foreign value by its
class and its own text.

* `Value.floatLayout` — how floating-point numbers are set.
* `Value.inspect` — the text of a value.
-/

namespace DataShape

/-- A key as it is shown in front of its value: text is quoted, numbers and truth values are not. -/
def Key.inspectChars : Key → List Char
  | .text s => Text.quoteChars s.toList
  | other => other.normalized.toList

namespace Value

/-- Floating-point numbers are written positionally from `10 ^ -4` to below `10 ^ 16`; an exponent
carries a sign only if it is negative, and of two equally near decimals the larger is written. -/
def floatLayout : Layout := ⟨-4, 15, false, .up⟩

/-- The text of a floating-point number. -/
def floatText (x : Binary64) : String := floatLayout.number x

mutual

/-- The characters of the inspect text. -/
def inspectChars : Value → List Char
  | .null => "null".toList
  | .boolean b => (Key.flagText b).toList
  | .integer n => Decimal.integerChars n
  | .float x => (floatText x).toList
  | .text s => Text.quoteChars s.toList
  | .array items => '[' :: (inspectItems items ++ [']'])
  | .map entries => '{' :: (inspectEntries entries ++ ['}'])
  | .foreign className shown =>
    '#' :: '<' :: (className.toList ++ ' ' :: (shown.toList ++ ['>']))

/-- Items with a comma and a blank between them. -/
def inspectItems : List Value → List Char
  | [] => []
  | item :: rest => inspectChars item ++ inspectMoreItems rest

/-- Items with a comma and a blank before each. -/
def inspectMoreItems : List Value → List Char
  | [] => []
  | item :: rest => ',' :: ' ' :: (inspectChars item ++ inspectMoreItems rest)

/-- Entries with a comma and a blank between them. -/
def inspectEntries : List (Key × Value) → List Char
  | [] => []
  | (key, value) :: rest =>
    key.inspectChars ++ ':' :: ' ' :: (inspectChars value ++ inspectMoreEntries rest)

/-- Entries with a comma and a blank before each. -/
def inspectMoreEntries : List (Key × Value) → List Char
  | [] => []
  | (key, value) :: rest =>
    ',' :: ' ' ::
      (key.inspectChars ++ ':' :: ' ' :: (inspectChars value ++ inspectMoreEntries rest))

end

/-- The text that shows a value. -/
def inspect (v : Value) : String := String.ofList (inspectChars v)

end Value

end DataShape
