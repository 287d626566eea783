import DataShape.Regex.Automaton
import DataShape.Regex.Matcher

/-!
# Searching a text

A text is searched byte by byte for the first place where a match ends.  An expression that matches
the empty text may do so between two bytes of one character, if its checks hold there.  That is no
match; but the search has stopped, and it is taken up again behind that place.  So a match that
spans such a place is lost, and what is found are the matches within ASCII.

Nothing is lost where a match is looked for at one start after the other.  A short text is searched
in this way when no deterministic automaton can follow all starts at once: when the expression asks
for the words of all scripts, or when its automata have too many states.

* `Regex.matchesInside` — whether the empty text is matched inside a character.
* `Regex.reach` — how long a text may be for starts to be tried one after the other.
* `Regex.isFound` — whether a match is found.
-/

namespace DataShape

namespace Regex

/-! ## Inside a character -/

/-- Whether a check holds between two bytes of one character.  A byte beyond ASCII is no part of a
word of ASCII; and for the words of all scripts, nothing holds where there is no character. -/
def Check.holdsInside (check : Check) : Bool :=
  !check.unicode &&
    (check.kind == .notWordBoundary || check.kind == .wordStartHalf || check.kind == .wordEndHalf)

/-- **Whether the empty text is matched between two bytes of one character.** -/
def matchesInside : Regex → Bool
  | .empty => true
  | .step _ => false
  | .check c => c.holdsInside
  | .seq a b => matchesInside a && matchesInside b
  | .alt a b => matchesInside a || matchesInside b
  | .group _ a => matchesInside a
  | .times a least _ _ => least == 0 || matchesInside a

/-- The expression with the characters beyond ASCII left out of all steps. -/
def withinAscii (r : Regex) : Regex :=
  r.map (fun s => { s with set := .inter s.set (.range 0 0x7F) }) id

/-! ## The sizes that decide -/

namespace Outline

mutual

/-- Whether there is a check for the words of all scripts. -/
def asksForWords : Outline → Bool
  | .empty => false
  | .literal _ => false
  | .set _ _ => false
  | .check c => c.unicode && c.kind.isOfWords
  | .capture a => asksForWords a
  | .times a _ _ _ => asksForWords a
  | .seq parts => anyAsksForWords parts
  | .alt options => anyAsksForWords options

/-- Whether there is a check for the words of all scripts in a list of outlines. -/
def anyAsksForWords : List Outline → Bool
  | [] => false
  | a :: rest => asksForWords a || anyAsksForWords rest

end

mutual

/-- The ranges of bytes that an automaton for an outline tells apart from others. -/
def byteRanges : Outline → Ranges
  | .empty => []
  | .literal bytes => bytes.map fun byte => (byte, byte)
  | .set _ ranges => (setParts ranges).flatten
  | .check c =>
    if c.kind.isOfWords then asciiWord
    else if c.kind = .lineStart ∨ c.kind = .lineEnd then [(0x0A, 0x0A)]
    else if c.kind = .lineStartBoth ∨ c.kind = .lineEndBoth then [(0x0A, 0x0A), (0x0D, 0x0D)]
    else []
  | .capture a => byteRanges a
  | .times a _ _ _ => byteRanges a
  | .seq parts => allByteRanges parts
  | .alt options => allByteRanges options

/-- The ranges of bytes for a list of outlines. -/
def allByteRanges : List Outline → Ranges
  | [] => []
  | a :: rest => byteRanges a ++ allByteRanges rest

end

/-- How many kinds of bytes an automaton for an outline tells apart. -/
def byteKinds (a : Outline) : Nat :=
  let changes := a.byteRanges.changes
  ((List.range 0x100).filter fun byte => byte == 0 || changes.contains byte).length

/-- How many states the automaton for an outline has. -/
def stateCount (backwards : Bool) (a : Outline) : Nat :=
  match a.whole? backwards with
  | some f => f.kept
  | none => 0

/-- How many bytes a deterministic automaton takes at least for so many states and kinds of bytes:
a few of its states, each with a successor for each kind of byte and for the end of the text, and
room to work out another one. -/
def workingBytes (states kinds : Nat) : Nat :=
  27 * states + 20 * (kinds + 1).nextPowerOfTwo + 294

/-- How many bytes a deterministic automaton may take. -/
def workingLimit : Nat := Nat.pow 2 21

/-- Whether there is room for deterministic automata. -/
def isDetermined (a : Outline) : Bool :=
  [false, true].all fun backwards =>
    decide (workingBytes (a.stateCount backwards) a.byteKinds ≤ workingLimit)

end Outline

/-! ## Searching -/

/-- How many bytes a text may have at most, however few states there are. -/
def placeLimit : Nat := 128

/-- How many pairs of a state and a place may be noted as tried. -/
def pairLimit : Nat := Nat.pow 2 21

/-- **How many bytes a text may have** for starts to be tried one after the other. -/
def reach (r : Regex) : Nat :=
  let a := r.outline
  if r.matchesInside && (a.asksForWords || !a.isDetermined) then
    min placeLimit (pairLimit / a.stateCount false - 1)
  else 0

/-- How many bytes a text has. -/
def byteCount (text : List Char) : Nat := (text.map Char.utf8Size).foldl (· + ·) 0

/-- **Whether a match is found in a text**: a match within ASCII, or any match if none is lost.
Starts are tried one after the other in texts of up to `reach` bytes. -/
def isFound (reach : Nat) (r : Regex) (text : List Char) : Bool :=
  if r.matchesInside then
    r.withinAscii.matchesSomewhere text ||
      (r.matchesSomewhere text && decide (byteCount text ≤ reach))
  else r.matchesSomewhere text

end Regex

end DataShape
