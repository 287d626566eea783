import DataShape.Numeric.Decimal
import DataShape.Regex.Flags
import DataShape.Text.Blank

/-!
# Counts of repetitions

A repetition with counts is written in braces: one number, a least number and a comma, or a least
and a most number.  Blanks around the numbers are always passed over.

* `Regex.Count` — how often something is repeated.
* `Regex.counted?` — the count behind an opening brace.
* `Regex.repetition?` — the count that an operator stands for.
-/

namespace DataShape

namespace Regex

/-- How often something is repeated. -/
structure Count where
  /-- The least number of times. -/
  least : Nat
  /-- The most, if there is one. -/
  most : Option Nat
  /-- Whether a match with fewer times is preferred. -/
  lazy : Bool
deriving DecidableEq

/-- Decimal digits, with whatever the flags pass over between them; `steps` bounds their number. -/
def spacedDigits (flags : Flags) : Nat → List Char → List Char × List Char
  | 0, cs => ([], cs)
  | _ + 1, [] => ([], [])
  | steps + 1, c :: rest =>
    if c.isDigit then
      let (digits, rest) := spacedDigits flags steps (skip flags rest)
      (c :: digits, rest)
    else ([], c :: rest)

/-- The outcome of reading a number: the number unless there are no digits, and the text behind
it.  Numbers of more than 32 bits are refused. -/
def countNumber? (flags : Flags) (cs : List Char) : Option (Option Nat × List Char) :=
  let cs := cs.dropWhile Text.isBlank
  let (digits, rest) := spacedDigits flags cs.length cs
  let rest := rest.dropWhile Text.isBlank
  let value := Decimal.valueOf digits
  if digits.isEmpty then some (none, rest)
  else if value < Nat.pow 2 32 then some (some value, rest)
  else none

/-- The least and the most times behind an opening brace, and the text behind the closing one. -/
def counted? (flags : Flags) (cs : List Char) : Option ((Nat × Option Nat) × List Char) := do
  let (first, cs) ← countNumber? flags (skip flags cs)
  let least ← first
  let (most, cs) ← match cs with
    | ',' :: rest => match skip flags rest with
      | '}' :: rest => some (none, '}' :: rest)
      | rest => do
        let (second, rest) ← countNumber? flags rest
        let most ← second
        some (some most, rest)
    | rest => some (some least, rest)
  match cs with
  | '}' :: rest => if least ≤ most.getD least then some ((least, most), rest) else none
  | _ => none

/-- A count with whether it is lazy, given the text behind it: a question mark makes it so. -/
def marked (flags : Flags) (least : Nat) (most : Option Nat) : List Char → Count × List Char
  | '?' :: rest => (⟨least, most, !flags.swapped⟩, rest)
  | rest => (⟨least, most, flags.swapped⟩, rest)

/-- The count of a repetition, given its first character and the text behind that. -/
def repetition? (flags : Flags) (operator : Char) (rest : List Char) :
    Option (Count × List Char) :=
  match operator with
  | '?' => some (marked flags 0 (some 1) rest)
  | '*' => some (marked flags 0 none rest)
  | '+' => some (marked flags 1 none rest)
  | '{' => do
    let ((least, most), rest) ← counted? flags rest
    some (marked flags least most (skip flags rest))
  | _ => none

end Regex

end DataShape
