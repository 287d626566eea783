import DataShape.Json.Reader
import DataShape.Settings.Basic
import DataShape.Text.Quoted

/-!
# Settings from JSON text

Settings are read from an object with any of their fields, or from an array of their values in
order; what is missing takes the usual value, and unknown members are passed over.  A text can be
at fault in two ways: it may not be JSON, or it may not fit, because a value has the wrong type or
a field is given twice.  The tokens are taken one at a time and **the first fault counts**, so a
misfit hides a later break of the rules of JSON and the other way round.

* `Settings.Fault` — what can be wrong with a text.
* `Settings.Decoder.step` — the state after one more token.
* `Settings.parse` — the settings that a text denotes.
-/

namespace DataShape

namespace Settings

/-! ## Faults -/

/-- What stands where something else is expected. -/
inductive Found where
  | null
  | boolean (b : Bool)
  | number (n : Json.Number)
  | text (s : String)
  | array
  | object

/-- What is expected of a value. -/
inductive Expected where
  | text
  | boolean
  | settings

/-- Why a JSON text does not fit settings. -/
inductive Misfit where
  /-- A value has the wrong type. -/
  | wrongType (found : Found) (expected : Expected)
  /-- A field is given twice. -/
  | repeated (field : Field)

/-- What can be wrong with a text. -/
inductive Fault where
  /-- The text is not JSON. -/
  | malformed
  /-- The text is JSON, at least as far as it was read, but does not fit. -/
  | misfit (m : Misfit)

/-- How a value of the wrong type is described. -/
def Found.describe : Found → String
  | .null => "null"
  | .boolean b => "boolean `" ++ (if b then "true" else "false") ++ "`"
  | .number (.whole n _) => "integer `" ++ Decimal.integerText n ++ "`"
  | .number (.real x _) => "floating point `" ++ Json.floatLayout.number x ++ "`"
  | .text s => "string " ++ Text.quote s
  | .array => "sequence"
  | .object => "map"

/-- How an expectation is described. -/
def Expected.describe : Expected → String
  | .text => "a string"
  | .boolean => "a boolean"
  | .settings => "struct MatchOptions"

/-- The message for a misfit. -/
def Misfit.message : Misfit → String
  | .wrongType found expected =>
    "invalid type: " ++ found.describe ++ ", expected " ++ expected.describe
  | .repeated field => "duplicate field `" ++ field.name ++ "`"

/-! ## Single values -/

/-- What a token begins, if a value may begin with it. -/
def Found.ofToken? : Json.Token → Option Found
  | .null => some .null
  | .boolean b => some (.boolean b)
  | .number t => t.toNumber?.map .number
  | .text pieces => (Json.Token.spelled? pieces).map .text
  | .openArray => some .array
  | .openObject => some .object
  | _ => none

/-- The fault of a token that does not begin what is expected. -/
def unexpected (expected : Expected) (t : Json.Token) : Fault :=
  match Found.ofToken? t with
  | some found => .misfit (.wrongType found expected)
  | none => .malformed

namespace Decoder

/-- The fields read so far. -/
structure Partial where
  /-- The key of the topmost node, if it was given. -/
  rootKey : Option String := none
  /-- The mark of positions, if it was given. -/
  indexMark : Option String := none
  /-- Whether to indent, if it was given. -/
  pretty : Option Bool := none

namespace Partial

/-- Whether a field was given. -/
def has (p : Partial) : Field → Bool
  | .rootKey => p.rootKey.isSome
  | .indexMark => p.indexMark.isSome
  | .pretty => p.pretty.isSome

/-- The settings with the usual values for the fields that were not given. -/
def settings (p : Partial) : Settings where
  rootKey := p.rootKey.getD usual.rootKey
  indexMark := p.indexMark.getD usual.indexMark
  pretty := p.pretty.getD usual.pretty

/-- Sets a field to the value that a token is. -/
def set (p : Partial) : Field → Json.Token → Except Fault Partial
  | .pretty, .boolean b => .ok { p with pretty := some b }
  | .pretty, t => .error (unexpected .boolean t)
  | field, .text pieces =>
    match Json.Token.spelled? pieces, field with
    | some s, .rootKey => .ok { p with rootKey := some s }
    | some s, _ => .ok { p with indexMark := some s }
    | none, _ => .error .malformed
  | _, t => .error (unexpected .text t)

end Partial

/-! ## States and steps -/

/-- What was read and what may come next. -/
inductive State where
  /-- The first token. -/
  | start
  /-- In an array, a value for the first of the fields; `opened` right behind the bracket. -/
  | item (read : Partial) (fields : List Field) (opened : Bool)
  /-- In an array, what follows a value, with the fields that have none yet. -/
  | afterItem (read : Partial) (fields : List Field)
  /-- In an object, a name; `opened` right behind the brace. -/
  | name (read : Partial) (opened : Bool)
  /-- In an object, the colon behind a name, with the field that it names. -/
  | colon (read : Partial) (field : Option Field)
  /-- In an object, the value of a field. -/
  | value (read : Partial) (field : Field)
  /-- In an object, the rest of a value that is passed over. -/
  | passing (read : Partial) (reader : Json.Reader.State)
  /-- In an object, what follows a member. -/
  | afterMember (read : Partial)
  /-- Nothing more. -/
  | done (settings : Settings)

/-- Passes over one more token of a value. -/
def pass (read : Partial) (reader : Json.Reader.State) (t : Json.Token) : Except Fault State :=
  match Json.Reader.step .lenient reader t with
  | some reader =>
    if reader.value?.isSome then .ok (.afterMember read) else .ok (.passing read reader)
  | none => .error .malformed

/-- The state after one more token, or the fault that the token is. -/
def step : State → Json.Token → Except Fault State
  | .start, .openArray => .ok (.item {} [.rootKey, .indexMark, .pretty] true)
  | .start, .openObject => .ok (.name {} true)
  | .start, t => .error (unexpected .settings t)
  | .item read _ true, .closeArray => .ok (.done read.settings)
  | .item read (field :: fields) _, t => return .afterItem (← read.set field t) fields
  | .afterItem read _, .closeArray => .ok (.done read.settings)
  | .afterItem read (field :: fields), .comma => .ok (.item read (field :: fields) false)
  | .name read true, .closeObject => .ok (.done read.settings)
  | .name read _, .text pieces =>
    match Json.Token.spelled? pieces with
    | none => .error .malformed
    | some s => match Field.ofName? s with
      | none => .ok (.colon read none)
      | some field =>
        if read.has field then .error (.misfit (.repeated field))
        else .ok (.colon read (some field))
  | .colon read none, .colon => .ok (.passing read Json.Reader.start)
  | .colon read (some field), .colon => .ok (.value read field)
  | .value read field, t => return .afterMember (← read.set field t)
  | .passing read reader, t => pass read reader t
  | .afterMember read, .comma => .ok (.name read false)
  | .afterMember read, .closeObject => .ok (.done read.settings)
  | _, _ => .error .malformed

end Decoder

/-- The settings that a JSON text denotes, or the first fault that was met. -/
def parse (s : String) : Except Fault Settings := do
  match ← (Json.Token.scan s).foldlM Decoder.step .start with
  | .done settings => .ok settings
  | _ => .error .malformed

end Settings

end DataShape
