import DataShape.Path.Basic

/-!
# The dotted text of a path

A path is written as the names of its steps with points between them, positions marked by `idx_`,
and the root as `(root)`.  The text can be read again: a step that starts with the mark and goes
on with a 64-bit number is a position, everything else is a key.  Reading loses what the text does
not show, so a key with a point in it, or one that looks like a position, comes back as something
else.

* `Path.text` — the dotted text.
* `Path.ofDotted` — the path that a dotted text denotes.
-/

namespace DataShape

/-- The mark in front of a position in dotted text. -/
def Segment.dottedMark : String := "idx_"

/-- The name of a step in dotted text. -/
def Segment.text (s : Segment) : String := s.render Segment.dottedMark

namespace Path

/-- What stands for the root in dotted text. -/
def rootText : String := "(root)"

/-! ## Writing -/

/-- Names with points between them. -/
def joinDotted (names : List String) : String := ".".intercalate names

/-- The dotted text of a path. -/
def text (p : Path) : String :=
  if p.isEmpty then rootText else joinDotted (p.map Segment.text)

/-! ## Reading -/

/-- A text cut at its points. -/
def pieces : List Char → List (List Char)
  | [] => [[]]
  | c :: rest =>
    if c = '.' then [] :: pieces rest
    else match pieces rest with
      | [] => [[c]]
      | piece :: more => (c :: piece) :: more

/-- The 64-bit number that a text spells: decimal digits, which a plus sign may precede. -/
def word? (cs : List Char) : Option Nat :=
  let digits := match cs with
    | '+' :: rest => rest
    | _ => cs
  if digits.isEmpty || !digits.all Char.isDigit then none
  else if Decimal.valueOf digits < Nat.pow 2 64 then some (Decimal.valueOf digits)
  else none

/-- What is left of a text after the mark of a position, if it starts with the mark. -/
def afterMark? (cs : List Char) : Option (List Char) :=
  match cs with
  | 'i' :: 'd' :: 'x' :: '_' :: rest => some rest
  | _ => none

/-- The step that a piece of dotted text denotes. -/
def segmentOf (piece : List Char) : Segment :=
  match (afterMark? piece).bind word? with
  | some position => .index position
  | none => .key (String.ofList piece)

/-- The path that a dotted text denotes. -/
def ofDotted (s : String) : Path :=
  if s = "" ∨ s = rootText then root else (pieces s.toList).map segmentOf

end Path

end DataShape
