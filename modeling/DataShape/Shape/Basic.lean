import DataShape.Pattern
import DataShape.Value.Inspect

/-!
# Shapes

A shape describes values.  Besides the kinds, literals and patterns there are sequences, records,
unions, optional shapes, and two extremes: the shape of every value, and the shape that no value
has, which only an absent field of a record satisfies.

A literal that is an array or a map is a template: it stands for the sequence of its first item,
or for the record of its entries.

* `Shape` — a shape.
* `Shape.isRequired`, `Shape.isNullable` — whether a field may be absent or null.
* `Shape.inspect` — the text that shows a shape.
-/

namespace DataShape

/-- A description of values. -/
inductive Shape where
  /-- The values of one kind. -/
  | exact (kind : Kind)
  /-- The arrays whose every item has the shape. -/
  | sequence (item : Shape)
  /-- The maps with exactly the declared fields, by normalized name. -/
  | record (fields : List (String × Shape))
  /-- The values of any of the shapes. -/
  | union (alternatives : List Shape)
  /-- The values of the shape and null; a field of this shape may be absent. -/
  | optional (inner : Shape)
  /-- Every value. -/
  | any
  /-- No value; a field of this shape must be absent. -/
  | nothing
  /-- The texts that match a pattern. -/
  | pattern (p : Pattern)
  /-- The values equal to a scalar, or those that an array or a map is a template of. -/
  | literal (v : Value)

namespace Shape

/-! ## Questions about fields -/

/-- Whether a field of this shape must be present. -/
def isRequired : Shape → Bool
  | .optional _ => false
  | .nothing => false
  | _ => true

mutual

/-- Whether the shape is seen to accept null or absence already. -/
def isNullable : Shape → Bool
  | .exact kind => kind.isNull
  | .literal v => v.isNull
  | .optional _ => true
  | .nothing => true
  | .union alternatives => anyNullable alternatives
  | _ => false

/-- Whether one of the shapes is seen to accept null or absence. -/
def anyNullable : List Shape → Bool
  | [] => false
  | s :: rest => isNullable s || anyNullable rest

end

/-! ## The text that shows a shape -/

mutual

/-- The characters that show a shape. -/
def inspectChars : Shape → List Char
  | .exact kind => kind.name.toList
  | .sequence item => "Sequence[".toList ++ (inspectChars item ++ [']'])
  | .record fields => "Record".toList ++ '{' :: (inspectFields fields ++ ['}'])
  | .union alternatives => "Union[".toList ++ (inspectList alternatives ++ [']'])
  | .optional inner => "Optional[".toList ++ (inspectChars inner ++ [']'])
  | .any => "Any".toList
  | .nothing => "Nothing".toList
  | .pattern p =>
    (match p.mode with
      | .search => "Pattern("
      | .whole => "FullPattern(").toList ++ (p.text.toList ++ [')'])
  | .literal v => v.inspectChars

/-- Shapes with a comma and a blank between them. -/
def inspectList : List Shape → List Char
  | [] => []
  | s :: rest => inspectChars s ++ inspectMore rest

/-- Shapes with a comma and a blank before each. -/
def inspectMore : List Shape → List Char
  | [] => []
  | s :: rest => ',' :: ' ' :: (inspectChars s ++ inspectMore rest)

/-- Fields with a comma and a blank between them. -/
def inspectFields : List (String × Shape) → List Char
  | [] => []
  | (name, s) :: rest =>
    name.toList ++ ':' :: ' ' :: (inspectChars s ++ inspectMoreFields rest)

/-- Fields with a comma and a blank before each. -/
def inspectMoreFields : List (String × Shape) → List Char
  | [] => []
  | (name, s) :: rest =>
    ',' :: ' ' :: (name.toList ++ ':' :: ' ' :: (inspectChars s ++ inspectMoreFields rest))

end

/-- The text that shows a shape. -/
def inspect (s : Shape) : String := String.ofList (inspectChars s)

end Shape

end DataShape
