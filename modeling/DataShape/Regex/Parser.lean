import DataShape.Regex.Automaton
import DataShape.Regex.Bracket
import DataShape.Regex.Counting
import DataShape.Text.Letter

/-!
# Reading regular expressions

An expression is read from left to right with a stack of the groups that are still open.  Each
step reads one piece of notation: a character, an escape, a bracketed class, an operator of
repetition, which takes the item before it, a bar, or one end of a group.  Flags that are set
inside a group hold until its end.

Two limits keep expressions within reason: how deep the notation nests, and how large the automaton
for the expression would be.  They are looked at when all was read, and the reading does not depend
on them.

* `Regex.step?` — one step of reading.
* `Regex.read?` — the expression that a text denotes.
* `Regex.Nested.isWithin` — the limits that are usual.
-/

namespace DataShape

namespace Regex

/-! ## Groups that are open -/

/-- An item of a sequence. -/
inductive Item where
  /-- A part of the expression. -/
  | part (regex : Nested Regex)
  /-- A change of flags, which matches nothing and cannot be repeated. -/
  | change

namespace Item

/-- What an item matches. -/
def regex : Item → Regex
  | .part regex => regex.item
  | .change => .empty

/-- How deep the notation of an item nests. -/
def depth : Item → Nat
  | .part regex => regex.depth
  | .change => 0

end Item

/-- A group that is still open, or the whole expression. -/
structure Level where
  /-- Whether the group captures what it matches. -/
  captures : Bool
  /-- The flags that hold at this point of the group. -/
  flags : Flags
  /-- The alternatives before the current one, last first. -/
  branches : List (Nested Regex)
  /-- The items of the current alternative, last first. -/
  items : List Item

namespace Level

/-- A group of which nothing was read. -/
def opened (captures : Bool) (flags : Flags) : Level := ⟨captures, flags, [], []⟩

/-- Adds an item to the current alternative. -/
def push (l : Level) (item : Item) : Level := { l with items := item :: l.items }

/-- The current alternative.  Two items and more nest one level deeper. -/
def branch (l : Level) : Nested Regex :=
  match l.items with
  | [] => ⟨.empty, 0⟩
  | [only] => ⟨only.regex, only.depth⟩
  | items => ⟨.seqs (items.reverse.map Item.regex), 1 + (items.map Item.depth).foldl max 0⟩

/-- Begins another alternative. -/
def alternate (l : Level) : Level :=
  { l with branches := l.branch :: l.branches, items := [] }

/-- The alternatives together.  Two and more nest one level deeper. -/
def close (l : Level) : Nested Regex :=
  match (l.branch :: l.branches).reverse with
  | [] => l.branch
  | [only] => only
  | first :: rest =>
    ⟨.alts first.item (rest.map (·.item)),
      1 + ((first :: rest).map (·.depth)).foldl max 0⟩

end Level

/-- What was read: the innermost open group, the ones around it, and the names of groups. -/
structure Reading where
  /-- The innermost group that is open. -/
  level : Level
  /-- The groups around it, innermost first. -/
  outer : List Level
  /-- The names that groups were given. -/
  names : List String

/-! ## Opening a group -/

/-- What an opening parenthesis begins. -/
inductive Opening where
  /-- A change of flags for the rest of the group around it. -/
  | change (flags : Flags)
  /-- A group, which may capture what it matches. -/
  | group (captures : Bool) (flags : Flags)
  /-- A group with a name, which captures. -/
  | named (name : String)

/-- Whether a character may be part of the name of a group. -/
def isGroupNameChar (first : Bool) (c : Char) : Bool :=
  c == '_' || Text.isLetter c ||
    (!first && (Text.isNumber c || c == '.' || c == '[' || c == ']'))

/-- The name of a group up to a closing angle bracket. -/
def groupName? (cs : List Char) : Option (Opening × List Char) :=
  let name := cs.takeWhile (· != '>')
  match cs.dropWhile (· != '>'), name with
  | _ :: rest, first :: more =>
    if isGroupNameChar true first && more.all (isGroupNameChar false) then
      some (.named (String.ofList name), rest)
    else none
  | _, _ => none

/-- What an opening parenthesis begins, and the text behind that.  Conditions on what stands before
or behind a position are not supported. -/
def opening? (flags : Flags) (cs : List Char) : Option (Opening × List Char) :=
  match skip flags cs with
  | '?' :: '=' :: _ => none
  | '?' :: '!' :: _ => none
  | '?' :: '<' :: '=' :: _ => none
  | '?' :: '<' :: '!' :: _ => none
  | '?' :: 'P' :: '<' :: rest => groupName? rest
  | '?' :: '<' :: rest => groupName? rest
  | '?' :: rest => do
    let (items, finish, rest) ← flagItems? rest
    let changed := flags.apply true items
    if finish = ':' then some (.group false changed, rest)
    else if items.isEmpty then none
    else some (.change changed, rest)
  | rest => some (.group true flags, rest)

/-! ## Steps -/

/-- Takes what an opening parenthesis begins. -/
def Reading.open? (r : Reading) : Opening → Option Reading
  | .change flags => some { r with level := { r.level.push .change with flags := flags } }
  | .group captures flags =>
    some { r with level := .opened captures flags, outer := r.level :: r.outer }
  | .named name =>
    if r.names.contains name then none
    else some ⟨.opened true r.level.flags, r.level :: r.outer, name :: r.names⟩

/-- Closes the innermost group, which becomes an item of the one around it. -/
def Reading.close? (r : Reading) : Option Reading :=
  match r.outer with
  | [] => none
  | around :: outer =>
    let closed := r.level.close
    let group : Nested Regex := ⟨.group r.level.captures closed.item, 1 + closed.depth⟩
    some { r with level := around.push (.part group), outer := outer }

/-- Adds a part of the expression to the current alternative. -/
def Reading.push (r : Reading) (regex : Regex) (depth : Nat) : Reading :=
  { r with level := r.level.push (.part ⟨regex, depth⟩) }

/-- Repeats the last item of the current alternative. -/
def Reading.repeat? (r : Reading) (count : Count) : Option Reading :=
  match r.level.items with
  | .part regex :: items =>
    let repeated : Nested Regex :=
      ⟨.times regex.item count.least count.most count.lazy, 1 + regex.depth⟩
    some { r with level := { r.level with items := .part repeated :: items } }
  | _ => none

/-- A piece outside brackets: an escape, a check, a point, or a character for itself. -/
def outerPiece? (flags : Flags) (c : Char) (rest : List Char) : Option (Piece × List Char) :=
  match c with
  | '\\' => escape? flags rest
  | '.' => some (.dot, rest)
  | '^' => some (.check .caret, rest)
  | '$' => some (.check .dollar, rest)
  | c => some (.char c false, rest)

/-- **One step of reading**, given the next character that counts and the text behind it. -/
def step? (r : Reading) (c : Char) (rest : List Char) : Option (Reading × List Char) :=
  let flags := r.level.flags
  match c with
  | '(' => do
    let (opening, rest) ← opening? flags rest
    let r ← r.open? opening
    some (r, rest)
  | ')' => r.close?.map fun r => (r, rest)
  | '|' => some ({ r with level := r.level.alternate }, rest)
  | '[' => do
    let (set, rest) ← bracket? flags rest
    some (r.push (.step (Step.under flags set.item)) set.depth, rest)
  | c =>
    if c = '?' ∨ c = '*' ∨ c = '+' ∨ c = '{' then do
      let (count, rest) ← repetition? flags c rest
      let r ← r.repeat? count
      some (r, rest)
    else do
      let (piece, rest) ← outerPiece? flags c rest
      let regex ← piece.toRegex? flags
      some (r.push regex 0, rest)

/-- Reads on to the end of the text; `steps` bounds the number of steps. -/
def readSteps? : Nat → Reading → List Char → Option Reading
  | 0, _, _ => none
  | steps + 1, r, cs =>
    match skip r.level.flags cs with
    | [] => some r
    | c :: rest => do
      let (r, rest) ← step? r c rest
      readSteps? steps r rest

/-! ## Whole expressions -/

/-- The reading before the first step. -/
def Reading.start : Reading := ⟨.opened false {}, [], []⟩

/-- The expression that was read, if no group is open. -/
def Reading.whole? (r : Reading) : Option (Nested Regex) :=
  if r.outer.isEmpty then some r.level.close else none

/-- **The expression that a text denotes**, if it is one.  Every step takes a character, so one step
more than there are characters is enough. -/
def read? (source : String) : Option (Nested Regex) :=
  (readSteps? (source.length + 1) .start source.toList).bind Reading.whole?

/-! ## Limits -/

/-- How deep the notation may nest. -/
def depthLimit : Nat := 250

/-- Whether an expression keeps both limits. -/
def Nested.isWithin (e : Nested Regex) : Bool := decide (e.depth ≤ depthLimit) && e.item.fits

end Regex

end DataShape
