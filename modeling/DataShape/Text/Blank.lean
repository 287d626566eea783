import DataShape.Text.Ranges

/-!
# Blank characters

The white space of the Unicode standard: the characters with the property White_Space.
-/

namespace DataShape

namespace Text

/-- The code points with the property White_Space. -/
def blanks : Ranges :=
  [(0x9, 0xD), (0x20, 0x20), (0x85, 0x85), (0xA0, 0xA0), (0x1680, 0x1680), (0x2000, 0x200A),
    (0x2028, 0x2029), (0x202F, 0x202F), (0x205F, 0x205F), (0x3000, 0x3000)]

/-- The table of blanks is in order. -/
theorem blanks_ordered : blanks.orderedFrom 0 = true := by decide +kernel

/-- Whether a character is white space. -/
def isBlank (c : Char) : Bool := blanks.contains c

end Text

end DataShape
