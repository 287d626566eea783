import DataShape.Shape.Basic

/-!
# Building shapes

Most shapes are built by their constructors.  Some constructions normalize what they are given,
and some can fail: an optional shape around one that already accepts null, a pattern whose source
is no regular expression, a record made of something that is no map, and a template without a
first item.

A template is converted one level deep; what is inside it stays a literal and is converted where a
match reaches it.

* `Shape.Fault` — why a shape cannot be built.
* `Shape.ofTemplate?` — the shape that a bare value denotes.
-/

namespace DataShape

/-- Why a shape cannot be built. -/
inductive Shape.Fault where
  /-- The fields of a record are given by a value of another kind than a map. -/
  | fieldsNotMap (actual : Kind)
  /-- The source of a pattern is no regular expression. -/
  | invalidPattern (source : String)
  /-- The shape inside an optional one already accepts null. -/
  | alreadyNullable (inner : String)
  /-- A template for sequences has no first item. -/
  | emptyTemplate
deriving DecidableEq

/-- The message for a fault.  Behind an invalid pattern there is room for what is wrong with it. -/
def Shape.Fault.message : Shape.Fault → String
  | .fieldsNotMap actual =>
    "record fields must be a mapping of field name to shape, got " ++ actual.name
  | .invalidPattern source => "invalid pattern /" ++ source ++ "/: "
  | .alreadyNullable inner =>
    "optional shape around " ++ inner ++ " is redundant: it already accepts null"
  | .emptyTemplate => "sequence template is empty: its first element is the element shape"

namespace Shape

/-! ## Records -/

/-- The record with the given fields.  Keys are normalized, so keys of different types may name
the same field; the last shape given for a field counts. -/
def ofFields (fields : List (Key × Shape)) : Shape :=
  .record (Entries.ofList (fields.map fun field => (field.1.normalized, field.2)))

/-- The record that a map is a template of: each value is a literal. -/
def ofEntries (entries : List (Key × Value)) : Shape :=
  ofFields (entries.map fun entry => (entry.1, .literal entry.2))

/-- The record that a value is a template of, which must be a map. -/
def recordOf? : Value → Except Fault Shape
  | .map entries => .ok (ofEntries entries)
  | v => .error (.fieldsNotMap v.kind)

/-! ## Other shapes -/

/-- The optional shape, unless the shape inside is seen to accept null already. -/
def optional? (inner : Shape) : Except Fault Shape :=
  if inner.isNullable then .error (.alreadyNullable inner.inspect) else .ok (.optional inner)

/-- The texts that match the pattern of a source. -/
def pattern? (mode : Pattern.Mode) (source : String) : Except Fault Shape :=
  match Pattern.ofSource? mode source with
  | some p => .ok (.pattern p)
  | none => .error (.invalidPattern source)

/-- The integers and the floating-point numbers. -/
def numeric : Shape := .union [.exact .integer, .exact .float]

/-- The truth values. -/
def truth : Shape := .union [.literal (.boolean true), .literal (.boolean false)]

/-! ## Templates -/

/-- The sequence whose items have the first of the given shapes. -/
def ofItems? : List Shape → Except Fault Shape
  | [] => .error .emptyTemplate
  | item :: _ => .ok (.sequence item)

/-- **The shape that a bare value denotes.**  An array is a template for sequences, a map for
records, and any other value is a literal. -/
def ofTemplate? : Value → Except Fault Shape
  | .array items => ofItems? (items.map .literal)
  | .map entries => .ok (ofEntries entries)
  | v => .ok (.literal v)

end Shape

end DataShape
