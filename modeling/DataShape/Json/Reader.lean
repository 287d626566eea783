import DataShape.Json.Token

/-!
# Reading JSON text

Tokens are taken one at a time.  The reader's state is the stack of arrays and objects that are
still open, together with what may come next; each token leads to the next state or is refused.
Reading is thus a walk along the list of tokens, and text of any depth is read in the same way.

What a number or a text token stands for, and how deep the nesting may go, is up to a `Reading`.
The strict one refuses numbers out of range, escapes that spell no character and deep nesting;
the lenient one looks at the structure only, which is how a value is skipped.

* `Reader.step` — the state after one more token.
* `Json.parse?` — the value of a text.
-/

namespace DataShape

namespace Json

/-! ## Ways of reading -/

/-- What a reader makes of the tokens that carry data. -/
structure Reading where
  /-- How many arrays and objects may be open at once; `none` for any number. -/
  depth : Option Nat
  /-- The value of a number token. -/
  number : NumberText → Option Json
  /-- The content of a text token. -/
  text : List TextPiece → Option String

namespace Reading

/-- Reads every value, with at most `depth` arrays and objects open at once. -/
def strict (depth : Nat) : Reading where
  depth := some depth
  number t := t.toNumber?.map .number
  text := Token.spelled?

/-- Looks at the structure only. -/
def lenient : Reading where
  depth := none
  number _ := some .null
  text _ := some ""

/-- Whether one more array or object may be opened inside `count` open ones. -/
def allows (r : Reading) (count : Nat) : Bool :=
  match r.depth with
  | some depth => decide (count < depth)
  | none => true

end Reading

namespace Reader

/-! ## States -/

/-- An array or an object that is still open, with what was read of it. -/
inductive Open where
  /-- An array: its items so far, last first. -/
  | items (done : List Json)
  /-- An object: its members so far, and the name of the member whose value is being read. -/
  | members (done : Entries String Json) (name : String)

/-- What may come next. -/
inductive Awaiting where
  /-- A value. -/
  | value
  /-- The first item of an array, or its end. -/
  | firstItem
  /-- The first name in an object, or its end. -/
  | firstName
  /-- The next name in an object with the members read so far. -/
  | name (done : Entries String Json)
  /-- The colon behind a name. -/
  | colon (done : Entries String Json) (name : String)
  /-- What follows a complete value. -/
  | after (value : Json)

/-- The state of a reader. -/
structure State where
  /-- The open arrays and objects, the innermost first. -/
  stack : List Open
  /-- What may come next. -/
  awaiting : Awaiting

/-- The state before the first token. -/
def start : State := ⟨[], .value⟩

/-- The value that was read, if it is complete. -/
def State.value? : State → Option Json
  | ⟨[], .after value⟩ => some value
  | _ => none

/-! ## Steps -/

/-- Starts or completes a value inside the open arrays and objects. -/
def startValue (r : Reading) (stack : List Open) : Token → Option State
  | .null => some ⟨stack, .after .null⟩
  | .boolean b => some ⟨stack, .after (.boolean b)⟩
  | .number t => (r.number t).map fun value => ⟨stack, .after value⟩
  | .text pieces => (r.text pieces).map fun s => ⟨stack, .after (.text s)⟩
  | .openArray => if r.allows stack.length then some ⟨.items [] :: stack, .firstItem⟩ else none
  | .openObject => if r.allows stack.length then some ⟨stack, .firstName⟩ else none
  | _ => none

/-- Goes on behind a complete value: to the next item or member, or out of the innermost array or
object. -/
def goOn (stack : List Open) (value : Json) : Token → Option State
  | .comma => match stack with
    | .items done :: outer => some ⟨.items (value :: done) :: outer, .value⟩
    | .members done name :: outer => some ⟨outer, .name (Entries.insert name value done)⟩
    | [] => none
  | .closeArray => match stack with
    | .items done :: outer => some ⟨outer, .after (.array (value :: done).reverse)⟩
    | _ => none
  | .closeObject => match stack with
    | .members done name :: outer =>
      some ⟨outer, .after (.object (Entries.insert name value done))⟩
    | _ => none
  | _ => none

/-- The state after one more token. -/
def step (r : Reading) : State → Token → Option State
  | ⟨stack, .value⟩, t => startValue r stack t
  | ⟨.items [] :: outer, .firstItem⟩, .closeArray => some ⟨outer, .after (.array [])⟩
  | ⟨stack, .firstItem⟩, t => startValue r stack t
  | ⟨stack, .firstName⟩, .closeObject => some ⟨stack, .after (.object [])⟩
  | ⟨stack, .firstName⟩, .text pieces => (r.text pieces).map fun name => ⟨stack, .colon [] name⟩
  | ⟨stack, .name done⟩, .text pieces => (r.text pieces).map fun name => ⟨stack, .colon done name⟩
  | ⟨stack, .colon done name⟩, .colon => some ⟨.members done name :: stack, .value⟩
  | ⟨stack, .after value⟩, t => goOn stack value t
  | _, _ => none

end Reader

/-! ## Whole texts -/

/-- The value that a list of tokens spells. -/
def ofTokens? (r : Reading) (tokens : List Token) : Option Json :=
  (tokens.foldlM (Reader.step r) Reader.start).bind Reader.State.value?

/-- How many arrays and objects may be open at once in a text that is read as a value. -/
def usualDepth : Nat := 127

/-- The value of a JSON text. -/
def parse? (s : String) : Option Json := ofTokens? (.strict usualDepth) (Token.scan s)

end Json

end DataShape
