import DataShape.Path.Dotted
import DataShape.Text.Quoted

/-!
# What a match finds

A match finds mismatches, which are about the value, and may be stopped by a violation, which is
about the shape or its use.  Values, kinds and shapes are kept by the text that shows them.

* `Mismatch` — a place where a value does not fit.
* `Rejected` — the alternatives of a union that did not match, by how they were declared.
* `Violation` — why a match cannot go on.
-/

namespace DataShape

/-! ## Mismatches -/

/-- The alternatives that a value did not match. -/
structure Rejected where
  /-- Compound shapes. -/
  shapes : List String
  /-- Kinds that the value is not of. -/
  kinds : List String
  /-- Literals that the value does not equal. -/
  literals : List String
deriving DecidableEq

namespace Rejected

/-- How many alternatives were rejected. -/
def count (r : Rejected) : Nat := r.shapes.length + r.kinds.length + r.literals.length

/-- Whether none was. -/
def isEmpty (r : Rejected) : Bool := r.count == 0

/-- One kind of rejected alternatives behind a heading, if there are any. -/
def listed (heading : String) (names : List String) : String :=
  if names.isEmpty then "" else "; " ++ heading ++ ": " ++ ", ".intercalate names

end Rejected

/-- A value that does not fit a shape. -/
inductive Mismatch where
  /-- The value is of another kind. -/
  | wrongKind (value kind : String)
  /-- The record declares no such field. -/
  | undeclaredKey (key : String)
  /-- A field that is required is absent. -/
  | absentKey (key : String)
  /-- A field that must be absent is present. -/
  | forbiddenKey
  /-- The text does not match the pattern. -/
  | unmatchedPattern (value pattern : String)
  /-- The value does not equal the literal. -/
  | unequal (value literal : String)
  /-- The value matches none of the alternatives. -/
  | noAlternative (value : String) (rejected : Rejected)
deriving DecidableEq

/-- The message for a mismatch. -/
def Mismatch.message : Mismatch → String
  | .wrongKind value kind => value ++ " is not instance of " ++ kind
  | .undeclaredKey key => "unexpected key " ++ Text.quote key
  | .absentKey key => "required key " ++ Text.quote key ++ " not present"
  | .forbiddenKey => "key present when not allowed"
  | .unmatchedPattern value pattern => value ++ " does not match " ++ pattern
  | .unequal value literal => value ++ " is not equal to (==) " ++ literal
  | .noAlternative value rejected =>
    value ++ " did not match any alternative" ++
      Rejected.listed "rejected shapes" rejected.shapes ++
      Rejected.listed "not instance of" rejected.kinds ++
      Rejected.listed "not equal to (==)" rejected.literals

/-! ## Violations -/

/-- Why a shape cannot be applied where it stands. -/
inductive Violation.Cause where
  /-- A pattern meets a value that is not text. -/
  | nonText (pattern value : String)
  /-- An empty array stands where its first item would be the shape of the items. -/
  | emptyTemplate
deriving DecidableEq

/-- A match that cannot go on, and the place it got to. -/
structure Violation where
  /-- What is wrong. -/
  cause : Violation.Cause
  /-- Where it is met. -/
  path : Path
deriving DecidableEq

/-- The message for a violation.  The place is always in dotted text with the usual mark. -/
def Violation.message (v : Violation) : String :=
  match v.cause with
  | .nonText pattern value =>
    "pattern " ++ pattern ++ " applied to non-text value " ++ value ++ " at path " ++ v.path.text
  | .emptyTemplate =>
    "empty sequence template at path " ++ v.path.text ++
      ": its first element is the element shape"

end DataShape
