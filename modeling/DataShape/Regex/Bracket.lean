import DataShape.Regex.Escape

/-!
# Bracketed classes

A class in brackets lists characters, ranges, classes with a letter or a name, and other bracketed
classes; lists are combined by operations on sets, which take what was read so far as their left
operand.  Classes are read with a stack of the brackets that are open, so nesting of any depth is
one loop over the text.

Variants in case are added to each operand of an operation, to each named class and to the whole
of a bracket, always before the complement is taken.

* `Regex.Nested` — what was read, with the depth to which it nests.
* `Regex.bracket?` — the class behind an opening bracket.
-/

namespace DataShape

namespace Regex

/-- Something that was read, with the depth to which its notation nests. -/
structure Nested (α : Type) where
  /-- What was read. -/
  item : α
  /-- How deep its notation nests. -/
  depth : Nat

/-! ## Named classes -/

/-- The classes that have a name inside brackets. -/
def namedClass? (name : String) : Option Ranges :=
  match name with
  | "alnum" => some [(0x30, 0x39), (0x41, 0x5A), (0x61, 0x7A)]
  | "alpha" => some [(0x41, 0x5A), (0x61, 0x7A)]
  | "ascii" => some [(0x00, 0x7F)]
  | "blank" => some [(0x09, 0x09), (0x20, 0x20)]
  | "cntrl" => some [(0x00, 0x1F), (0x7F, 0x7F)]
  | "digit" => some [(0x30, 0x39)]
  | "graph" => some [(0x21, 0x7E)]
  | "lower" => some [(0x61, 0x7A)]
  | "print" => some [(0x20, 0x7E)]
  | "punct" => some [(0x21, 0x2F), (0x3A, 0x40), (0x5B, 0x60), (0x7B, 0x7E)]
  | "space" => some [(0x09, 0x0D), (0x20, 0x20)]
  | "upper" => some [(0x41, 0x5A)]
  | "word" => some asciiWord
  | "xdigit" => some [(0x30, 0x39), (0x41, 0x46), (0x61, 0x66)]
  | _ => none

/-- The class with a name behind an opening bracket: whether it is negated, its ranges, and the
text behind it.  If the text is not of this form the bracket opens a class of its own. -/
def named? : List Char → Option (Bool × Ranges × List Char)
  | ':' :: cs =>
    let (negated, cs) := match cs with
      | '^' :: rest => (true, rest)
      | _ => (false, cs)
    match cs.dropWhile (· != ':') with
    | ':' :: ']' :: rest =>
      (namedClass? (String.ofList (cs.takeWhile (· != ':')))).map fun ranges =>
        (negated, ranges, rest)
    | _ => none
  | _ => none

/-! ## Open brackets -/

/-- The operations on sets. -/
inductive SetOperation where
  | inter
  | diff
  | symmDiff
deriving DecidableEq

/-- A bracket that is still open. -/
structure Bracket where
  /-- Whether the class is the complement of what is listed. -/
  negated : Bool
  /-- The operation whose right operand is being listed, and its left operand. -/
  pending : Option (SetOperation × Nested CharSet)
  /-- What was listed since, last first. -/
  listed : List (Nested CharSet)

namespace Bracket

/-- Lists one more item. -/
def push (b : Bracket) (item : Nested CharSet) : Bracket := { b with listed := item :: b.listed }

/-- What was listed since the last operation.  Two items and more nest one level deeper. -/
def union (b : Bracket) : Nested CharSet :=
  match b.listed with
  | [] => ⟨.empty, 0⟩
  | [only] => only
  | items => ⟨.unions (items.reverse.map (·.item)), 1 + (items.map (·.depth)).foldl max 0⟩

/-- What was read so far: the pending operation applied to its left operand and the list. -/
def combined (flags : Flags) (b : Bracket) : Nested CharSet :=
  let right := b.union
  match b.pending with
  | none => right
  | some (operation, left) =>
    let x := foldCase flags left.item
    let y := foldCase flags right.item
    let set := match operation with
      | .inter => CharSet.inter x y
      | .diff => CharSet.diff x y
      | .symmDiff => CharSet.symmDiff x y
    ⟨set, 1 + max left.depth right.depth⟩

/-- Begins the right operand of an operation. -/
def operate (flags : Flags) (operation : SetOperation) (b : Bracket) : Bracket :=
  { b with pending := some (operation, b.combined flags), listed := [] }

end Bracket

/-- A set as a class of its own: with variants in case, then perhaps its complement.  Outside
Unicode a class must stay within ASCII, or it would match bytes that are no characters. -/
def closeSet? (flags : Flags) (negated : Bool) (set : CharSet) : Option CharSet :=
  let folded := foldCase flags set
  let closed := if negated then CharSet.compl folded else folded
  if flags.unicode || closed.isAscii then some closed else none

/-- The class that a bracket is once it is closed. -/
def Bracket.close? (flags : Flags) (b : Bracket) : Option (Nested CharSet) :=
  let inner := b.combined flags
  (closeSet? flags b.negated inner.item).map fun set => ⟨set, 1 + inner.depth⟩

/-! ## Reading -/

/-- Takes the minus signs at the start of a class, which stand for themselves; `steps` bounds their
number. -/
def leadingMinuses (flags : Flags) : Nat → Bracket → List Char → Bracket × List Char
  | 0, b, cs => (b, cs)
  | steps + 1, b, cs =>
    match cs with
    | '-' :: rest => leadingMinuses flags steps (b.push ⟨.single '-', 0⟩) (skip flags rest)
    | _ => (b, cs)

/-- Opens a class: an accent negates it, minus signs at its start stand for themselves, and so does
a closing bracket if it comes first. -/
def openBracket? (flags : Flags) (cs : List Char) : Option (Bracket × List Char) :=
  let cs := skip flags cs
  let (negated, cs) := match cs with
    | '^' :: rest => (true, skip flags rest)
    | _ => (false, cs)
  let (b, cs) := leadingMinuses flags cs.length ⟨negated, none, []⟩ cs
  match b.listed, cs with
  | _, [] => none
  | [], ']' :: rest => some (b.push ⟨.single ']', 0⟩, skip flags rest)
  | _, _ => some (b, cs)

/-- One piece inside brackets: an escape, or a character that stands for itself. -/
def bracketPiece? (flags : Flags) : List Char → Option (Piece × List Char)
  | [] => none
  | '\\' :: rest => escape? flags rest
  | c :: rest => some (.char c false, rest)

/-- An item inside brackets: a piece, or a range of two.  A minus sign makes a range unless the
class ends behind it or another minus sign makes it an operation. -/
def bracketItem? (flags : Flags) (cs : List Char) : Option (CharSet × List Char) := do
  let (low, cs) ← bracketPiece? flags cs
  let single := fun cs => (low.toCharSet? flags).map fun set => (set, cs)
  match skip flags cs with
  | [] => none
  | '-' :: rest =>
    let ahead := peekAhead flags rest
    if ahead == some ']' || ahead == some '-' then single ('-' :: rest)
    else
      let (high, rest) ← bracketPiece? flags (skip flags rest)
      let first ← low.bracketChar? flags
      let last ← high.bracketChar? flags
      if first.toNat ≤ last.toNat then some (.range first.toNat last.toNat, rest) else none
  | rest => single rest

/-- One step of reading: the open brackets and the text behind the step, or the class if the
outermost bracket was closed. -/
def bracketStep? (flags : Flags) (b : Bracket) (outer : List Bracket) (cs : List Char) :
    Option ((List Bracket ⊕ Nested CharSet) × List Char) :=
  match skip flags cs with
  | [] => none
  | '[' :: rest =>
    match named? rest with
    | some (negated, ranges, rest) => do
      let set ← closeSet? flags negated (.table ranges)
      some (.inl (b.push ⟨set, 0⟩ :: outer), rest)
    | none => do
      let (inner, rest) ← openBracket? flags rest
      some (.inl (inner :: b :: outer), rest)
  | ']' :: rest => do
    let closed ← b.close? flags
    match outer with
    | [] => some (.inr closed, rest)
    | next :: more => some (.inl (next.push closed :: more), rest)
  | '&' :: '&' :: rest => some (.inl (b.operate flags .inter :: outer), rest)
  | '-' :: '-' :: rest => some (.inl (b.operate flags .diff :: outer), rest)
  | '~' :: '~' :: rest => some (.inl (b.operate flags .symmDiff :: outer), rest)
  | rest => do
    let (set, rest) ← bracketItem? flags rest
    some (.inl (b.push ⟨set, 0⟩ :: outer), rest)

/-- Reads on until the outermost bracket is closed; `steps` bounds the number of steps. -/
def bracketSteps? (flags : Flags) : Nat → List Bracket → List Char →
    Option (Nested CharSet × List Char)
  | 0, _, _ => none
  | _ + 1, [], _ => none
  | steps + 1, b :: outer, cs => do
    match ← bracketStep? flags b outer cs with
    | (.inl open', rest) => bracketSteps? flags steps open' rest
    | (.inr closed, rest) => some (closed, rest)

/-- **The class behind an opening bracket**, and the text behind it.  Every step takes a character,
so as many steps as there are characters are enough. -/
def bracket? (flags : Flags) (cs : List Char) : Option (Nested CharSet × List Char) := do
  let (b, rest) ← openBracket? flags cs
  bracketSteps? flags (rest.length + 1) [b] rest

end Regex

end DataShape
