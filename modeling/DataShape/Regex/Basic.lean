import DataShape.Regex.CharSet
import DataShape.Text.WordCharacter

/-!
# Regular expressions

A regular expression is built from steps, which consume one character of a set, and from checks,
which consume nothing and look at the two characters around a position.  Groups, laziness and
whether a set is one of bytes are kept because they tell how an expression was written, which
decides the size of an automaton for it; they do not change what is matched.

The same tree serves with other leaves: for one text a step is only the set of the positions it
can be taken from.  So the tree is generic in its leaves.

* `Regex.Expr` — the tree, over any steps and checks.
* `Regex.Step` — the steps.
* `Regex.Check` — the checks, with `Regex.Check.holds`.
* `Regex` — a regular expression.
-/

namespace DataShape

namespace Regex

/-! ## Trees -/

/-- A tree of steps of type `σ` and checks of type `γ`. -/
inductive Expr (σ γ : Type) where
  /-- Nothing. -/
  | empty
  /-- One character. -/
  | step (s : σ)
  /-- A condition on the position. -/
  | check (c : γ)
  /-- One after the other. -/
  | seq (a b : Expr σ γ)
  /-- One or the other. -/
  | alt (a b : Expr σ γ)
  /-- A group, which may capture what it matches. -/
  | group (captures : Bool) (a : Expr σ γ)
  /-- At least `least` times and, if there is a `most`, at most that often; as seldom as possible if
  `lazy`, or else as often. -/
  | times (a : Expr σ γ) (least : Nat) (most : Option Nat) (lazy : Bool)

namespace Expr

variable {σ γ τ δ : Type}

/-- The tree with other leaves. -/
def map (f : σ → τ) (g : γ → δ) : Expr σ γ → Expr τ δ
  | .empty => .empty
  | .step s => .step (f s)
  | .check c => .check (g c)
  | .seq a b => .seq (map f g a) (map f g b)
  | .alt a b => .alt (map f g a) (map f g b)
  | .group captures a => .group captures (map f g a)
  | .times a least most lazy => .times (map f g a) least most lazy

/-- Expressions one after the other. -/
def seqs : List (Expr σ γ) → Expr σ γ
  | [] => .empty
  | [a] => a
  | a :: rest => .seq a (seqs rest)

/-- One of the expressions; there is at least a first one. -/
def alts (a : Expr σ γ) : List (Expr σ γ) → Expr σ γ
  | [] => a
  | b :: rest => .alt a (alts b rest)

end Expr

/-! ## Steps -/

/-- What one step may consume. -/
structure Step where
  /-- The characters. -/
  set : CharSet
  /-- Whether the set was written as one of bytes. -/
  ofBytes : Bool
deriving DecidableEq

/-! ## Checks -/

/-- What a check compares at a position. -/
inductive Check.Kind where
  | textStart
  | textEnd
  /-- The start of the text or of a line; lines end with a line feed. -/
  | lineStart
  /-- The end of the text or of a line. -/
  | lineEnd
  /-- The start of the text or of a line, where a carriage return also ends a line, but not between
  a carriage return and a line feed. -/
  | lineStartBoth
  /-- The end of the text or of a line, where a carriage return also ends a line. -/
  | lineEndBoth
  | wordBoundary
  | notWordBoundary
  | wordStart
  | wordEnd
  | wordStartHalf
  | wordEndHalf
deriving DecidableEq

/-- Whether the characters of words matter. -/
def Check.Kind.isOfWords : Check.Kind → Bool
  | .wordBoundary | .notWordBoundary | .wordStart | .wordEnd | .wordStartHalf | .wordEndHalf => true
  | _ => false

/-- A condition on the position between two characters. -/
structure Check where
  /-- What is compared. -/
  kind : Check.Kind
  /-- Whether the characters of words, if they matter, are those of all scripts or those of ASCII
  only. -/
  unicode : Bool
deriving DecidableEq

/-- The characters of words in ASCII. -/
def asciiWord : Ranges := [(0x30, 0x39), (0x41, 0x5A), (0x5F, 0x5F), (0x61, 0x7A)]

namespace Check

/-- Whether there is a character and it belongs to a word. -/
def isWord (unicode : Bool) : Option Char → Bool
  | some c => if unicode then Text.isWordCharacter c else asciiWord.contains c
  | none => false

/-- **Whether a check holds** between the character before a position and the one after it. -/
def holds (check : Check) (before after : Option Char) : Bool :=
  let left := isWord check.unicode before
  let right := isWord check.unicode after
  match check.kind with
  | .textStart => before.isNone
  | .textEnd => after.isNone
  | .lineStart => before.isNone || before == some '\n'
  | .lineEnd => after.isNone || after == some '\n'
  | .lineStartBoth =>
    before.isNone || before == some '\n' || (before == some '\r' && after != some '\n')
  | .lineEndBoth =>
    after.isNone || after == some '\r' || (after == some '\n' && before != some '\r')
  | .wordBoundary => left != right
  | .notWordBoundary => left == right
  | .wordStart => !left && right
  | .wordEnd => left && !right
  | .wordStartHalf => !left
  | .wordEndHalf => !right

end Check

end Regex

/-- A regular expression: the steps are sets of characters. -/
abbrev Regex := Regex.Expr Regex.Step Regex.Check

end DataShape
