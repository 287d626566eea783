import DataShape.Numeric.Decimal

/-!
# Paths into a value

A path leads from the whole of a value to one of its parts: through the field of a map, named by
its normalized key, or through the position in an array.

* `Segment` — one step.
* `Path` — the steps in order; the empty path is the root.
* `Segment.render` — the name of a step, with positions marked as a report likes them.
-/

namespace DataShape

/-- One step into a value. -/
inductive Segment where
  /-- Into the field of a map, by its normalized key. -/
  | key (name : String)
  /-- Into an array, by position. -/
  | index (position : Nat)
deriving DecidableEq

namespace Segment

/-- The name of a step: a key names itself, a position is written behind a mark. -/
def render (mark : String) : Segment → String
  | .key name => name
  | .index position => mark ++ Decimal.integerText position

end Segment

/-- The steps that lead from the root of a value to a part of it. -/
abbrev Path := List Segment

namespace Path

/-- The path of the whole value. -/
def root : Path := []

/-- The path with one more step. -/
def push (p : Path) (s : Segment) : Path := p ++ [s]

/-- The last step, if there is one, and the path before it. -/
def pop (p : Path) : Option Segment × Path := (p.getLast?, p.dropLast)

/-- The names of the steps. -/
def render (mark : String) (p : Path) : List String := p.map (Segment.render mark)

end Path

end DataShape
