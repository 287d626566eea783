import DataShape.Text.Unprintable

/-!
# Quoted text

Text is shown between double quotes.  A quote and a backslash are escaped, NUL, tab, line feed and
carriage return have short escapes, every other character without a glyph of its own is shown by
its code point in braces, and the rest stands for itself.

* `escapeChar` — how one character is shown.
* `quote` — the quoted text.
-/

namespace DataShape

namespace Text

/-- The code point of a character in lower-case hexadecimal, between braces. -/
def codeEscape (c : Char) : List Char :=
  '\\' :: 'u' :: '{' :: (Nat.toDigits 16 c.toNat ++ ['}'])

/-- How one character is shown inside quotes. -/
def escapeChar (c : Char) : List Char :=
  if c = '"' then ['\\', '"']
  else if c = '\\' then ['\\', '\\']
  else if c = '\t' then ['\\', 't']
  else if c = '\n' then ['\\', 'n']
  else if c = '\r' then ['\\', 'r']
  else if c = '\x00' then ['\\', '0']
  else if isUnprintable c then codeEscape c
  else [c]

/-- The characters of a quoted text. -/
def quoteChars (cs : List Char) : List Char := '"' :: (cs.flatMap escapeChar ++ ['"'])

/-- A text between quotes, with escapes. -/
def quote (s : String) : String := String.ofList (quoteChars s.toList)

end Text

end DataShape
