import DataShape.Regex.Basic

/-!
# Finding a match

Whether a regular expression matches somewhere in a text is settled without trying one match after
the other.  All positions are followed at once: an expression takes a set of positions, where a
match may start, to the set of the positions where such a match may end.  A set of positions is a
natural number, position `i` being bit `i`, so that following a step is a shift of the bits.

For this the expression is first specialised to the text: a step becomes the set of the positions
whose character it may consume, a check the set of the positions where it holds.

* `Regex.plan` — the expression specialised to a text.
* `Regex.ends` — the ends of all matches that start in a set of positions.
* `Regex.matchesSomewhere` — whether there is a match anywhere.
-/

namespace DataShape

namespace Regex

/-! ## Specialising to a text -/

/-- An expression for one text: steps and checks are sets of positions. -/
abbrev Plan := Expr Nat Nat

/-- The positions whose character satisfies a condition; `place` is the bit of the first one. -/
def stepMask (accepts : Char → Bool) (place : Nat) : List Char → Nat
  | [] => 0
  | c :: rest => (if accepts c then place else 0) + stepMask accepts (2 * place) rest

/-- The positions where a condition on the neighbouring characters holds; `place` is the bit of
the first one, and `before` the character in front of it. -/
def checkMask (holds : Option Char → Option Char → Bool) (place : Nat) (before : Option Char) :
    List Char → Nat
  | [] => if holds before none then place else 0
  | c :: rest =>
    (if holds before (some c) then place else 0) + checkMask holds (2 * place) (some c) rest

/-- The expression specialised to a text. -/
def plan (r : Regex) (text : List Char) : Plan :=
  r.map (fun s => stepMask s.set.contains 1 text) (fun check => checkMask check.holds 1 none text)

/-! ## Following positions -/

/-- Follows a function `count` times, stopping early at a set that it maps to itself. -/
def exactly (follow : Nat → Nat) : Nat → Nat → Nat
  | 0, positions => positions
  | count + 1, positions =>
    let next := follow positions
    if next = positions then positions else exactly follow count next

/-- Follows a function up to `count` times and keeps all positions on the way, stopping early when
there is none that is new. -/
def upTo (follow : Nat → Nat) : Nat → Nat → Nat
  | 0, positions => positions
  | count + 1, positions =>
    let next := positions ||| follow positions
    if next = positions then positions else upTo follow count next

/-- **The ends of matches.**  A repetition without an upper bound is followed `size` times, where
`size` is the number of positions: each round before the last brings a new one. -/
def ends (size : Nat) : Plan → Nat → Nat
  | .empty, positions => positions
  | .step mask, positions => (positions &&& mask) <<< 1
  | .check mask, positions => positions &&& mask
  | .seq a b, positions => ends size b (ends size a positions)
  | .alt a b, positions => ends size a positions ||| ends size b positions
  | .group _ a, positions => ends size a positions
  | .times a least most _, positions =>
    upTo (ends size a) (match most with
      | some most => most - least
      | none => size) (exactly (ends size a) least positions)

/-- **Whether there is a match somewhere in the text.** -/
def matchesSomewhere (r : Regex) (text : List Char) : Bool :=
  let size := text.length + 1
  ends size (r.plan text) (Nat.pow 2 size - 1) != 0

end Regex

end DataShape
