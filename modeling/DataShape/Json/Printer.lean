import DataShape.Json.Basic
import DataShape.Numeric.Layout

/-!
# Writing JSON text

A JSON value is written either on one line without blanks, or with every item and member on a line
of its own, indented by two blanks a level.  Empty arrays and objects are a pair of brackets in
both forms.  Quotes, backslashes and control characters below the blank are escaped; every other
character stands for itself.

* `Json.compact` — the text on one line.
* `Json.pretty` — the indented text.
-/

namespace DataShape

namespace Json

/-! ## Scalars -/

/-- How one character is written inside quotes. -/
def escapeChar (c : Char) : List Char :=
  if c = '"' then ['\\', '"']
  else if c = '\\' then ['\\', '\\']
  else if c = '\x08' then ['\\', 'b']
  else if c = '\x0c' then ['\\', 'f']
  else if c = '\n' then ['\\', 'n']
  else if c = '\r' then ['\\', 'r']
  else if c = '\t' then ['\\', 't']
  else if c.toNat < 0x10 then '\\' :: 'u' :: '0' :: '0' :: '0' :: Nat.toDigits 16 c.toNat
  else if c.toNat < 0x20 then '\\' :: 'u' :: '0' :: '0' :: Nat.toDigits 16 c.toNat
  else [c]

/-- A text between quotes. -/
def textChars (s : String) : List Char := '"' :: (s.toList.flatMap escapeChar ++ ['"'])

/-- Floating-point numbers are written positionally from `10 ^ -5` to below `10 ^ 16`; an exponent
always carries a sign, and of two equally near decimals the even one is written. -/
def floatLayout : Layout := ⟨-5, 15, true, .even⟩

/-- A number. -/
def Number.chars : Number → List Char
  | .whole n _ => Decimal.integerChars n
  | .real x _ => (floatLayout.number x).toList

/-! ## On one line -/

mutual

/-- The characters of a value on one line. -/
def compactChars : Json → List Char
  | .null => "null".toList
  | .boolean b => (if b then "true" else "false").toList
  | .number n => n.chars
  | .text s => textChars s
  | .array [] => ['[', ']']
  | .array (item :: rest) => '[' :: (compactChars item ++ (compactItems rest ++ [']']))
  | .object [] => ['{', '}']
  | .object ((name, value) :: rest) =>
    '{' :: (textChars name ++ ':' :: (compactChars value ++ (compactMembers rest ++ ['}'])))

/-- Items with a comma before each. -/
def compactItems : List Json → List Char
  | [] => []
  | item :: rest => ',' :: (compactChars item ++ compactItems rest)

/-- Members with a comma before each. -/
def compactMembers : List (String × Json) → List Char
  | [] => []
  | (name, value) :: rest =>
    ',' :: (textChars name ++ ':' :: (compactChars value ++ compactMembers rest))

end

/-- The text of a value on one line. -/
def compact (j : Json) : String := String.ofList (compactChars j)

/-! ## Indented -/

/-- The start of a line at a level of indentation. -/
def newLine (level : Nat) : List Char := '\n' :: List.replicate (2 * level) ' '

mutual

/-- The characters of a value whose lines are indented from `level` on. -/
def prettyChars (level : Nat) : Json → List Char
  | .null => "null".toList
  | .boolean b => (if b then "true" else "false").toList
  | .number n => n.chars
  | .text s => textChars s
  | .array [] => ['[', ']']
  | .array (item :: rest) =>
    '[' :: (newLine (level + 1) ++ (prettyChars (level + 1) item ++
      (prettyItems level rest ++ (newLine level ++ [']']))))
  | .object [] => ['{', '}']
  | .object ((name, value) :: rest) =>
    '{' :: (newLine (level + 1) ++ (textChars name ++ ':' :: ' ' ::
      (prettyChars (level + 1) value ++ (prettyMembers level rest ++ (newLine level ++ ['}'])))))

/-- Items on lines of their own, with a comma before each line. -/
def prettyItems (level : Nat) : List Json → List Char
  | [] => []
  | item :: rest =>
    ',' :: (newLine (level + 1) ++ (prettyChars (level + 1) item ++ prettyItems level rest))

/-- Members on lines of their own, with a comma before each line. -/
def prettyMembers (level : Nat) : List (String × Json) → List Char
  | [] => []
  | (name, value) :: rest =>
    ',' :: (newLine (level + 1) ++ (textChars name ++ ':' :: ' ' ::
      (prettyChars (level + 1) value ++ prettyMembers level rest)))

end

/-- The indented text of a value. -/
def pretty (j : Json) : String := String.ofList (prettyChars 0 j)

/-! ## Repeated members -/

mutual

/-- Merges repeated members of every object: the first place keeps the last value. -/
def merged : Json → Json
  | .array items => .array (mergedItems items)
  | .object members => .object (Entries.ofList (mergedMembers members))
  | scalar => scalar

/-- Merges repeated members inside every item. -/
def mergedItems : List Json → List Json
  | [] => []
  | item :: rest => merged item :: mergedItems rest

/-- Merges repeated members inside the value of every member. -/
def mergedMembers : List (String × Json) → List (String × Json)
  | [] => []
  | (name, value) :: rest => (name, merged value) :: mergedMembers rest

end

end Json

end DataShape
