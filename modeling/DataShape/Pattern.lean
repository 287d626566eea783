import DataShape.Regex.Parser
import DataShape.Regex.Search

/-!
# Patterns

A pattern is a regular expression together with the way it is applied to a text: it may match
anywhere, or it must match the whole text.  For the latter its source is put between the checks
for both ends of the text before it is read.

An engine does not take every expression, and how it searches depends on how long the text is.
Where these lines are drawn is its own affair.  So a source is read under given limits, and an
expression that was built under other limits, or with other flags, makes a pattern as well.

* `Pattern` — a source, a mode, and the expression that decides.
* `Pattern.Limits` — where an engine draws its lines.
* `Pattern.Limits.ofSource?`, `Pattern.ofSource?` — the pattern of a source, if the source is a
  regular expression within given limits or the usual ones.
* `Pattern.isMatch` — whether a text matches.
-/

namespace DataShape

/-- How a pattern is applied to a text. -/
inductive Pattern.Mode where
  /-- The expression matches somewhere in the text. -/
  | search
  /-- The expression matches the text from its start to its end. -/
  | whole
deriving DecidableEq

/-- The text that is read as the expression of a pattern. -/
def Pattern.Mode.frame (source : String) : Pattern.Mode → String
  | .search => source
  | .whole => "\\A(?:" ++ source ++ ")\\z"

/-- A regular expression with the way it is applied. -/
structure Pattern where
  /-- The source, as it was given. -/
  source : String
  /-- How the pattern is applied. -/
  mode : Pattern.Mode
  /-- The expression that decides. -/
  regex : Regex
  /-- How many bytes a text may have for starts to be tried one after the other. -/
  reach : Nat

namespace Pattern

/-- Where an engine draws its lines. -/
structure Limits where
  /-- Whether an expression is taken. -/
  allows : Regex.Nested Regex → Bool
  /-- How many bytes a text may have for starts to be tried one after the other. -/
  reach : Regex → Nat

/-- The limits of an engine that was not told otherwise. -/
def Limits.usual : Limits := ⟨Regex.Nested.isWithin, Regex.reach⟩

/-- The pattern of a source, if the framed source is a regular expression within the limits. -/
def Limits.ofSource? (limits : Limits) (mode : Mode) (source : String) : Option Pattern :=
  ((Regex.read? (mode.frame source)).filter limits.allows).map fun e =>
    ⟨source, mode, e.item, limits.reach e.item⟩

/-- The pattern of a source within the usual limits. -/
def ofSource? (mode : Mode) (source : String) : Option Pattern := Limits.usual.ofSource? mode source

/-- Whether a text matches. -/
def isMatch (p : Pattern) (text : String) : Bool := p.regex.isFound p.reach text.toList

/-- The text that shows a pattern: its source between slashes. -/
def text (p : Pattern) : String := "/" ++ p.source ++ "/"

end Pattern

end DataShape
