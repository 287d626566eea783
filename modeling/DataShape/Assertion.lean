import DataShape.Matching.Validation
import DataShape.Shape.Building

/-!
# Assertions

A check of a value against a shape, for the assertions of a test: a verdict together with the
message to fail with.  A check also has a verdict when the shape could not be built or could not
be applied, so an assertion that a value does not match is not fooled by a faulty shape.

* `Assertion.check` — the verdict and the message.
* `Assertion.failsMatch`, `Assertion.failsMismatch` — the message of an assertion that fails.
-/

namespace DataShape

/-- The verdict of a check. -/
inductive Verdict where
  | matched
  | mismatched
  /-- The shape could not be built, or could not be applied to the value. -/
  | violated
deriving DecidableEq

/-- A verdict with the message of an assertion that it fails. -/
structure Assertion where
  /-- The verdict. -/
  verdict : Verdict
  /-- The message. -/
  message : String
deriving DecidableEq

namespace Assertion

/-- Whether the value matched. -/
def passed (a : Assertion) : Bool := a.verdict = .matched

/-- Checks a value against a shape that may have failed to be built. -/
def check (v : Value) (shape : Except Shape.Fault Shape) : Assertion :=
  match shape with
  | .error fault => ⟨.violated, "invalid shape: " ++ fault.message⟩
  | .ok shape =>
    match shape.validate v .usual with
    | .error violation =>
      ⟨.violated,
        "cannot match " ++ v.inspect ++ " against " ++ shape.inspect ++ ": " ++ violation.message⟩
    | .ok outcome =>
      if outcome.isValid then
        ⟨.matched, "expected " ++ v.inspect ++ " not to match " ++ shape.inspect⟩
      else
        ⟨.mismatched,
          "expected " ++ v.inspect ++ " to match " ++ shape.inspect ++ "\n" ++ outcome.message⟩

/-- The message with which the assertion that the value matches fails, if it does. -/
def failsMatch (a : Assertion) : Option String := if a.passed then none else some a.message

/-- The message with which the assertion that the value does not match fails, if it does. -/
def failsMismatch (a : Assertion) : Option String :=
  if a.verdict = .mismatched then none else some a.message

end Assertion

end DataShape
