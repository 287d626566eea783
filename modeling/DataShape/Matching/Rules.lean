import DataShape.Matching.Session
import DataShape.Shape.Basic
import DataShape.Value.Equality

/-!
# The rules of matching

The rules by which a value fits a shape, as steps that a session is taken through.  Every part of
the value that the shape speaks about is visited, so that one match finds every independent
mismatch; alternatives are all tried, even if an earlier one fits.  A violation stops the match
where it is met, and leaves the session there.

A record looks at a map in three passes: first the keys that are not declared, then the required
fields that are absent, then the values of the declared fields that are present.  Keys are
compared in their normalized form.

* `Matching` — a match in progress.
* `Matching.within`, `Matching.each`, `Matching.anyOf` — how matches are put together.
* `Shape.check` — the match of a shape and a value.
* `Shape.checkTemplate` — the match of a literal and a value.
-/

namespace DataShape

/-- A match in progress: it takes the session on, and ends with a result unless a violation stops
it. -/
abbrev Matching (α : Type) := ExceptT Violation (StateM Session) α

/-! ## Rejected alternatives -/

/-- Puts an alternative that did not match in front of the others of its sort: kinds, scalar
literals, and all others, which includes templates. -/
def Rejected.add (alternative : Shape) (r : Rejected) : Rejected :=
  match alternative with
  | .exact kind => { r with kinds := kind.name :: r.kinds }
  | .literal v =>
    if v.isScalar then { r with literals := v.inspect :: r.literals }
    else { r with shapes := v.inspect :: r.shapes }
  | other => { r with shapes := other.inspect :: r.shapes }

namespace Matching

/-! ## Steps -/

/-- The value fits. -/
def accept : Matching Bool := return true

/-- The value does not fit, which is recorded. -/
def reject (m : Mismatch) : Matching Bool := do
  modify (·.record m)
  return false

/-- The shape cannot be applied here. -/
def abort (cause : Violation.Cause) : Matching Bool := do
  throw ⟨cause, (← get).path⟩

/-- The match of a part that is one step further in. -/
def within (step : Segment) (part : Matching Bool) : Matching Bool := do
  modify (·.push step)
  let verdict ← part
  modify (·.pop)
  return verdict

/-- Visits everything in a list, whatever the verdicts; all must find a fit. -/
def each {α : Type} (visit : α → Matching Bool) : List α → Matching Bool
  | [] => return true
  | item :: rest => do
    let verdict ← visit item
    let others ← each visit rest
    return verdict && others

/-! ## Alternatives -/

/-- The verdict of a match in a fork; what it records is dropped. -/
def trial (part : Matching Bool) : Matching Bool := do
  match (part.run (← get).fork).1 with
  | .ok verdict => return verdict
  | .error violation => throw violation

/-- Tries alternatives one after the other: whether one fits, and those that do not. -/
def tried : List (Shape × Matching Bool) → Matching (Bool × Rejected)
  | [] => return (false, ⟨[], [], []⟩)
  | (alternative, part) :: rest => do
    let verdict ← trial part
    let (others, rejected) ← tried rest
    return (verdict || others, if verdict then rejected else rejected.add alternative)

/-- **Alternatives.**  They are all tried in isolation.  If none fits there is one mismatch for
all. -/
def anyOf (v : Value) (alternatives : List (Shape × Matching Bool)) : Matching Bool := do
  let (verdict, rejected) ← tried alternatives
  if verdict then accept else reject (.noAlternative v.inspect rejected)

/-! ## Rules for one place -/

/-- The value is of another kind than it must be. -/
def wrongKind (v : Value) (kind : Kind) : Matching Bool :=
  reject (.wrongKind v.inspect kind.name)

/-- One kind: the value must be of it. -/
def exact (kind : Kind) (v : Value) : Matching Bool :=
  if v.kind = kind then accept else wrongKind v kind

/-- A scalar literal: the value must be equal to it. -/
def literal (expected v : Value) : Matching Bool :=
  if v.equal expected then accept else reject (.unequal v.inspect expected.inspect)

/-- A pattern, which may only be applied to text. -/
def pattern (p : Pattern) (v : Value) : Matching Bool :=
  match v.text? with
  | none => abort (.nonText p.text v.inspect)
  | some s => if p.isMatch s then accept else reject (.unmatchedPattern v.inspect p.text)

/-! ## Rules for arrays and maps -/

/-- A sequence: the value must be an array, whose items are visited in order. -/
def sequence (item : Value → Matching Bool) (v : Value) : Matching Bool :=
  match v with
  | .array items => each (fun part => within (.index part.2) (item part.1)) items.zipIdx
  | _ => wrongKind v .array

/-- The fields of a record: names, and whether they are required, in order of declaration. -/
abbrev Declarations := List (String × Bool)

/-- A key of the value, which must be declared. -/
def expectedKey (isDeclared : Bool) (key : String) : Matching Bool :=
  if isDeclared then accept else within (.key key) (reject (.undeclaredKey key))

/-- A declared field, which must be present if it is required. -/
def presentField (isRequired isPresent : Bool) (name : String) : Matching Bool :=
  if isRequired && !isPresent then within (.key name) (reject (.absentKey name)) else accept

/-- The value of a key: if the field is declared, it must fit. -/
def fieldValue (part : Option (Value → Matching Bool)) (key : String) (v : Value) :
    Matching Bool :=
  match part with
  | some part => within (.key key) (part v)
  | none => accept

/-- A record, given its declarations and the match of each declared field. -/
def record (declared : Declarations) (field : String → Option (Value → Matching Bool))
    (v : Value) : Matching Bool :=
  match v with
  | .map entries => do
    let present := entries.map fun entry => (entry.1.normalized, entry.2)
    let expected ← each (fun entry => expectedKey (field entry.1).isSome entry.1) present
    let complete ← each (fun entry =>
      presentField entry.2 ((present.map (·.1)).contains entry.1) entry.1) declared
    let fitting ← each (fun entry => fieldValue (field entry.1) entry.1 entry.2) present
    return expected && complete && fitting
  | _ => wrongKind v .map

end Matching

namespace Shape

/-! ## Templates -/

mutual

/-- The match of a literal: an array is a template for sequences of its first item, a map for
records of its entries, and any other literal is compared for equality. -/
def checkTemplate : Value → Value → Matching Bool
  | .array [], _ => .abort .emptyTemplate
  | .array (item :: _), v => .sequence (checkTemplate item) v
  | .map entries, v =>
    .record (entries.map fun entry => (entry.1.normalized, true)) (checkEntry entries) v
  | expected, v => .literal expected v

/-- The match of the field that the first entry with a normalized key declares. -/
def checkEntry : List (Key × Value) → String → Option (Value → Matching Bool)
  | [], _ => none
  | (key, template) :: rest, name =>
    if key.normalized = name then some (checkTemplate template) else checkEntry rest name

end

/-! ## Shapes -/

mutual

/-- **The match of a shape and a value.** -/
def check : Shape → Value → Matching Bool
  | .exact kind, v => .exact kind v
  | .sequence item, v => .sequence (check item) v
  | .record fields, v =>
    .record (fields.map fun field => (field.1, field.2.isRequired)) (checkField fields) v
  | .union alternatives, v => .anyOf v (checkEach alternatives v)
  | .optional inner, v => .anyOf v [(inner, check inner v), (.exact .null, .exact .null v)]
  | .any, _ => .accept
  | .nothing, _ => .reject .forbiddenKey
  | .pattern p, v => .pattern p v
  | .literal expected, v => checkTemplate expected v

/-- The match of the first field with a name. -/
def checkField : List (String × Shape) → String → Option (Value → Matching Bool)
  | [], _ => none
  | (declared, s) :: rest, name =>
    if declared = name then some (check s) else checkField rest name

/-- Several shapes, each with its match with one value. -/
def checkEach : List Shape → Value → List (Shape × Matching Bool)
  | [], _ => []
  | s :: rest, v => (s, check s v) :: checkEach rest v

end

end Shape

end DataShape
