import DataShape.Text.CaseClosure

/-!
# Sets of characters

What one step of a regular expression may consume is a set of characters.  A set is kept as it was
written, as an expression over ranges and tables, and membership is evaluated on the expression:
the variants in case of a set need not be enumerated, for a character belongs to them exactly when
one of its own variants belongs to the set.

* `CharSet` — an expression that denotes a set of characters.
* `CharSet.contains` — membership.
* `CharSet.ranges` — the ranges that the expression comes to.
-/

namespace DataShape

/-- An expression that denotes a set of characters. -/
inductive CharSet where
  /-- No character. -/
  | empty
  /-- The characters between two code points, both included. -/
  | range (first last : Nat)
  /-- The characters of a table. -/
  | table (ranges : Ranges)
  /-- The characters in either set. -/
  | union (a b : CharSet)
  /-- The characters in both sets. -/
  | inter (a b : CharSet)
  /-- The characters in the first set but not in the second. -/
  | diff (a b : CharSet)
  /-- The characters in exactly one of the sets. -/
  | symmDiff (a b : CharSet)
  /-- The characters that are not in the set. -/
  | compl (a : CharSet)
  /-- The characters of the set and their variants in case. -/
  | folded (a : CharSet)
  /-- The characters of the set and, for the letters of ASCII, their variants in case. -/
  | asciiFolded (a : CharSet)
deriving DecidableEq

namespace CharSet

/-- The set of one character. -/
def single (c : Char) : CharSet := .range c.toNat c.toNat

/-- The union of a list of sets. -/
def unions : List CharSet → CharSet
  | [] => .empty
  | [a] => a
  | a :: rest => .union a (unions rest)

/-- The letter of ASCII in the other case; other characters are their own. -/
def otherAsciiCase (c : Char) : Char :=
  if c.isLower then c.toUpper else if c.isUpper then c.toLower else c

/-- **Membership.** -/
def contains : CharSet → Char → Bool
  | .empty, _ => false
  | .range first last, c => decide (first ≤ c.toNat ∧ c.toNat ≤ last)
  | .table ranges, c => ranges.contains c
  | .union a b, c => contains a c || contains b c
  | .inter a b, c => contains a c && contains b c
  | .diff a b, c => contains a c && !contains b c
  | .symmDiff a b, c => contains a c != contains b c
  | .compl a, c => !contains a c
  | .folded a, c => contains a c || (Text.caseVariants c).any (contains a)
  | .asciiFolded a, c => contains a c || contains a (otherAsciiCase c)

/-- Whether the set has no character between U+0080 and U+00FF.  A set of bytes is built from
ranges below U+0100, so this is whether it stays within ASCII. -/
def isAscii (a : CharSet) : Bool :=
  (List.range 0x80).all fun offset => !a.contains (Char.ofNat (0x80 + offset))

/-- The set with the letters of ASCII in the other case. -/
def asciiClosure (set : Ranges) : Ranges :=
  let partners := fun (own other : Nat) =>
    Ranges.ofCodes (((List.range 26).filter fun i => set.containsCode (own + i)).map (other + ·))
  Ranges.unions [set, partners 0x41 0x61, partners 0x61 0x41]

/-- **The set as ranges**, in order and apart from each other. -/
def ranges : CharSet → Ranges
  | .empty => []
  | .range first last => if first ≤ last then [(first, last)] else []
  | .table ranges => ranges
  | .union a b => (ranges a).union (ranges b)
  | .inter a b => (ranges a).inter (ranges b)
  | .diff a b => (ranges a).diff (ranges b)
  | .symmDiff a b => (ranges a).symmDiff (ranges b)
  | .compl a => (ranges a).compl
  | .folded a => Text.caseClosure (ranges a)
  | .asciiFolded a => asciiClosure (ranges a)

end CharSet

end DataShape
