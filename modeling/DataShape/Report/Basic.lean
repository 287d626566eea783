import DataShape.Json.Printer
import DataShape.Settings.Basic

/-!
# Reports

A report keeps messages by the place they are about.  It is a tree whose branches are the rendered
names of the steps into a value; a node holds the messages of its place in the order in which they
came, and its branches in the order in which they were first needed.  Nodes are made only on the
way to a message, so a report without messages has none.

* `Report.add` — adds a message at a path.
* `Report.get?`, `Report.messagesAt` — look a path up.
* `Report.toList` — all messages with the dotted text of their place.
* `Report.raw`, `Report.toJson` — the report in JSON, with repeated members and with those merged.
-/

namespace DataShape

/-! ## Nodes -/

/-- A place in a report: its messages and the places below it, by rendered name. -/
inductive Report.Node where
  | mk (messages : List String) (children : List (String × Report.Node))

namespace Report

namespace Node

/-- A node with no message and nothing below it. -/
def empty : Node := ⟨[], []⟩

/-- The messages of a place, in the order in which they came. -/
def messages : Node → List String
  | ⟨messages, _⟩ => messages

/-- The places directly below, in the order in which they were first needed. -/
def children : Node → Entries String Node
  | ⟨_, children⟩ => children

/-- The place below with a name. -/
def child? (n : Node) (name : String) : Option Node := Entries.lookup? name n.children

/-- The place that a list of names leads to. -/
def get? : List String → Node → Option Node
  | [], n => some n
  | name :: rest, n => (n.child? name).bind (get? rest)

/-- Adds a message at the place that a list of names leads to, making the nodes on the way. -/
def add (message : String) : List String → Node → Node
  | [], ⟨messages, children⟩ => ⟨messages ++ [message], children⟩
  | name :: rest, ⟨messages, children⟩ =>
    ⟨messages, Entries.alter name (fun child => add message rest (child.getD empty)) children⟩

mutual

/-- How many nodes there are, this one included. -/
def count : Node → Nat
  | ⟨_, children⟩ => 1 + countChildren children

/-- How many nodes there are in a list of branches. -/
def countChildren : List (String × Node) → Nat
  | [] => 0
  | (_, child) :: rest => count child + countChildren rest

end

/-! ## All messages -/

/-- The text of a place one name below another; the topmost node has no text of its own. -/
def placeBelow (place : Option String) (name : String) : String :=
  match place with
  | some text => text ++ "." ++ name
  | none => name

mutual

/-- The messages of a node and of all below it, each with the text of its place. -/
def toListUnder (place : Option String) : Node → List (String × String)
  | ⟨messages, children⟩ =>
    messages.map (fun message => (place.getD Path.rootText, message)) ++
      listChildren place children

/-- The messages of all nodes in a list of branches. -/
def listChildren (place : Option String) : List (String × Node) → List (String × String)
  | [] => []
  | (name, child) :: rest =>
    toListUnder (some (placeBelow place name)) child ++ listChildren place rest

end

/-! ## JSON -/

/-- The name of the member that holds the messages of a node. -/
def messagesKey : String := "errors"

/-- The member that holds messages, if there are any. -/
def messagesMember (messages : List String) : List (String × Json) :=
  if messages.isEmpty then [] else [(messagesKey, .array (messages.map .text))]

mutual

/-- A node in JSON: its messages, if it has any, and its branches.  A branch may have the same name
as the member of the messages. -/
def raw : Node → Json
  | ⟨messages, children⟩ => .object (messagesMember messages ++ rawChildren children)

/-- The branches of a node as members. -/
def rawChildren : List (String × Node) → List (String × Json)
  | [] => []
  | (name, child) :: rest => (name, raw child) :: rawChildren rest

end

end Node

end Report

/-! ## Reports -/

/-- Messages by the place they are about. -/
structure Report where
  /-- The name of the topmost node in JSON. -/
  rootKey : String
  /-- The mark in front of array positions. -/
  indexMark : String
  /-- The topmost node, once there is a message. -/
  top : Option Report.Node

namespace Report

/-- The report without messages. -/
def new (settings : Settings) : Report := ⟨settings.rootKey, settings.indexMark, none⟩

/-- Whether there are no messages. -/
def isEmpty (r : Report) : Bool := r.top.isNone

/-- Adds a message at a path. -/
def add (r : Report) (path : Path) (message : String) : Report :=
  { r with top := some ((r.top.getD .empty).add message (path.render r.indexMark)) }

/-- The node of a path, if there is a message at it or below it. -/
def get? (r : Report) (path : Path) : Option Node :=
  r.top.bind (Node.get? (path.render r.indexMark))

/-- The messages of a path. -/
def messagesAt (r : Report) (path : Path) : List String :=
  match r.get? path with
  | some node => node.messages
  | none => []

/-- All messages with the dotted text of their place, places before those below them. -/
def toList (r : Report) : List (String × String) :=
  match r.top with
  | some node => node.toListUnder none
  | none => []

/-- How many nodes there are. -/
def size (r : Report) : Nat :=
  match r.top with
  | some node => node.count
  | none => 0

/-- The report in JSON, member by member.  A member is repeated where a branch has the name of the
member that holds the messages. -/
def raw (r : Report) : Json :=
  match r.top with
  | some node => .object [(r.rootKey, node.raw)]
  | none => .object []

/-- The report as a JSON value: of a repeated member the last value stays, in the first place. -/
def toJson (r : Report) : Json := r.raw.merged

/-- The report on one line. -/
def compact (r : Report) : String := r.toJson.compact

/-- The report with indented lines. -/
def pretty (r : Report) : String := r.toJson.pretty

end Report

end DataShape
