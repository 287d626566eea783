import DataShape.Matching.Rules

/-!
# Validation

A value is validated by the match of a shape in a session: in a session of its own, or in one that
is in progress, where the match is begun at the current path.

* `Session.examine` — matches a value at the current path.
* `Shape.validate` — matches one value in a session of its own.
* `Shape.accepts` — the bare verdict.
-/

namespace DataShape

/-- **Matches a value at the current path.**  A violation carries its place in the larger value,
and leaves the session's path where the match was left. -/
def Session.examine (s : Session) (shape : Shape) (v : Value) :
    Session × Except Violation Bool :=
  let (result, s) := (shape.check v).run.run s
  (s, result)

namespace Shape

/-- Matches a value and keeps what was found. -/
def validate (shape : Shape) (v : Value) (settings : Settings) : Except Violation Outcome :=
  match (Session.new settings).examine shape v with
  | (s, .ok _) => .ok s.finish
  | (_, .error violation) => .error violation

/-- Whether a value fits a shape. -/
def accepts (shape : Shape) (v : Value) (settings : Settings) : Except Violation Bool :=
  (shape.validate v settings).map (·.isValid)

end Shape

end DataShape
