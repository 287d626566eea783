import DataShape.Text.Property.Age
import DataShape.Text.Property.Segmentation

/-!
# Properties of characters

A set of characters can be named by a property: by a yes-or-no property, a general category or a
script alone, or by a property together with one of its values.  Names are compared in loose form,
in which neither case nor spaces, hyphens, underscores and a leading "is" matter.

* `Property.looseName` — the loose form of a name.
* `Property.ofName?` — the characters that a name alone stands for.
* `Property.ofValue?` — the characters that have a value of a property.
-/

namespace DataShape

namespace Text

namespace Property

/-! ## Names -/

/-- The loose form of a name.  Characters beyond ASCII are left out.  The "is" of a name that would
be "c" otherwise is kept, for "isc" is a name of its own. -/
def looseName (name : List Char) : String :=
  let plain := fun (cs : List Char) =>
    (cs.filter fun c => decide (c.toNat < 0x80) && !(c == ' ' || c == '_' || c == '-')).map
      Char.toLower
  match name with
  | 'i' :: 's' :: rest | 'I' :: 's' :: rest | 'i' :: 'S' :: rest | 'I' :: 'S' :: rest =>
    let short := plain rest
    String.ofList (if short == ['c'] then ['i', 's', 'c'] else short)
  | _ => String.ofList (plain name)

/-! ## Look-up -/

/-- The characters of a general category, or of those that are named like one. -/
def category? (name : String) : Option Ranges :=
  match name with
  | "any" => some Ranges.everyCode
  | "ascii" => some [(0x00, 0x7F)]
  | "assigned" => some (GeneralCategory.ranges .unassigned).compl
  | name => (GeneralCategory.named? name).map GeneralCategory.rangesOf

/-- The names that are both of a property and of a general category, and stand for the latter. -/
def isCategoryFirst (name : String) : Bool := ["cf", "sc", "lc"].contains name

/-- **The characters that a name stands for**: a yes-or-no property, a general category, or a
script. -/
def ofName? (name : List Char) : Option Ranges :=
  let name := looseName name
  let property := if isCategoryFirst name then none else named? name
  (property.or (category? name)).or ((Script.named? name).map Script.ranges)

/-- **The characters that have a value of a property.** -/
def ofValue? (property value : List Char) : Option Ranges :=
  let value := looseName value
  match looseName property with
  | "gc" | "generalcategory" => category? value
  | "sc" | "script" => (Script.named? value).map Script.ranges
  | "scx" | "scriptextensions" => (Script.named? value).map Script.extended
  | "age" => Age.ranges? value
  | "gcb" | "graphemeclusterbreak" => GraphemeBreak.ranges? value
  | "wb" | "wordbreak" => WordBreak.ranges? value
  | "sb" | "sentencebreak" => SentenceBreak.ranges? value
  | _ => none

end Property

end Text

end DataShape
