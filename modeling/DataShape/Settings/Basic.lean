import DataShape.Json.Printer
import DataShape.Path.Dotted

/-!
# Settings of a match

Settings say how the findings of a match are keyed and rendered; they never change what a match
finds.

* `Settings` — the settings, with the usual ones as defaults.
* `Settings.toJson` — their JSON form.
-/

namespace DataShape

/-- How findings are keyed and rendered. -/
structure Settings where
  /-- The key of the topmost node of a report. -/
  rootKey : String := "_root_"
  /-- The mark in front of array positions in a report. -/
  indexMark : String := Segment.dottedMark
  /-- Whether the message of a failed match is indented. -/
  pretty : Bool := true
deriving DecidableEq

namespace Settings

/-- The usual settings. -/
def usual : Settings := {}

/-- The fields of settings, in the order in which they are written. -/
inductive Field where
  | rootKey
  | indexMark
  | pretty
deriving DecidableEq

/-- The name of a field in JSON. -/
def Field.name : Field → String
  | .rootKey => "root-key"
  | .indexMark => "index-prefix"
  | .pretty => "pretty"

/-- The field with a name. -/
def Field.ofName? (s : String) : Option Field :=
  [Field.rootKey, .indexMark, .pretty].find? (·.name == s)

/-- The JSON form of settings. -/
def toJson (s : Settings) : Json :=
  .object [(Field.rootKey.name, .text s.rootKey), (Field.indexMark.name, .text s.indexMark),
    (Field.pretty.name, .boolean s.pretty)]

end Settings

end DataShape
