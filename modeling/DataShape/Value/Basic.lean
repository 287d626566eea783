import DataShape.Entries
import DataShape.Numeric.Binary64
import DataShape.Numeric.Decimal

/-!
# Dynamically typed values

The values that shapes describe: the data of JSON, with integers of any size kept apart from
floating-point numbers, maps whose keys may also be integers and booleans, and foreign values of
the host, known only by the name of their class and a text.

* `Kind` — what sort of value a value is.
* `Key` — a key of a map; keys of different types may stand for the same field.
* `Value` — a value.
* `Value.WellFormed` — no map in the value has two entries with the same key.
-/

namespace DataShape

/-! ## Kinds -/

/-- The kind of a value. -/
inductive Kind where
  | null
  | boolean
  | integer
  | float
  | text
  | array
  | map
  /-- The kind of the foreign values of one class. -/
  | foreign (className : String)
deriving DecidableEq

namespace Kind

/-- The name a kind is shown by. -/
def name : Kind → String
  | .null => "null"
  | .boolean => "boolean"
  | .integer => "integer"
  | .float => "float"
  | .text => "text"
  | .array => "array"
  | .map => "map"
  | .foreign className => className

/-- Whether the kind is that of the null value. -/
def isNull (k : Kind) : Bool := k = .null

end Kind

/-! ## Keys -/

/-- A key of a map. -/
inductive Key where
  | text (s : String)
  | number (n : Int)
  | flag (b : Bool)
deriving DecidableEq

namespace Key

/-- The text of a truth value. -/
def flagText (b : Bool) : String := if b then "true" else "false"

/-- The text by which records know a key: the number `1` and the text `1` name the same field. -/
def normalized : Key → String
  | .text s => s
  | .number n => Decimal.integerText n
  | .flag b => flagText b

/-- The order of keys: texts by code points, then numbers, then truth values. -/
def atMost : Key → Key → Bool
  | .text s, .text t => decide (s ≤ t)
  | .text _, _ => true
  | .number _, .text _ => false
  | .number m, .number n => decide (m ≤ n)
  | .number _, .flag _ => true
  | .flag a, .flag b => !a || b
  | .flag _, _ => false

/-- The distinct keys of a list in their order. -/
def sorted (keys : List Key) : List Key := (keys.mergeSort atMost).eraseReps

end Key

/-! ## Values -/

/-- A dynamically typed value. -/
inductive Value where
  | null
  | boolean (b : Bool)
  | integer (n : Int)
  | float (x : Binary64)
  | text (s : String)
  | array (items : List Value)
  | map (entries : List (Key × Value))
  /-- A value of the host, with the name of its class and a text that stands for it. -/
  | foreign (className shown : String)
deriving Inhabited

namespace Value

/-- The kind of a value. -/
def kind : Value → Kind
  | .null => .null
  | .boolean _ => .boolean
  | .integer _ => .integer
  | .float _ => .float
  | .text _ => .text
  | .array _ => .array
  | .map _ => .map
  | .foreign className _ => .foreign className

/-- Whether the value is null. -/
def isNull : Value → Bool
  | .null => true
  | _ => false

/-- The characters of a text value. -/
def text? : Value → Option String
  | .text s => some s
  | _ => none

/-- The items of an array. -/
def items? : Value → Option (List Value)
  | .array items => some items
  | _ => none

/-- The entries of a map. -/
def entries? : Value → Option (Entries Key Value)
  | .map entries => some entries
  | _ => none

/-- Whether the value is neither an array nor a map. -/
def isScalar : Value → Bool
  | .array _ => false
  | .map _ => false
  | _ => true

mutual

/-- **No repeated keys.**  Every map in the value has at most one entry for each key.  Maps that
are built entry by entry are always of this kind. -/
def WellFormed : Value → Prop
  | .array items => WellFormedItems items
  | .map entries => (Entries.keys entries).Nodup ∧ WellFormedEntries entries
  | _ => True

/-- Every value of the list is well formed. -/
def WellFormedItems : List Value → Prop
  | [] => True
  | item :: rest => WellFormed item ∧ WellFormedItems rest

/-- Every value under a key is well formed. -/
def WellFormedEntries : List (Key × Value) → Prop
  | [] => True
  | (_, value) :: rest => WellFormed value ∧ WellFormedEntries rest

end

end Value

end DataShape
