import DataShape.Proofs.Report.Clashes
import DataShape.Proofs.Report.Extensionality

/-!
# Reading a report back

An object is read as a node: the array under the name of the messages is the messages, and every
other member is a branch.  Written member by member every node can be read back, for a branch is
never an array.  The JSON value of a report has the same members as long as no names clash.  Where
they do clash the messages are gone, so there might as well be one more.

* `Node.ofJson?`, `Report.ofJson?` — the reader.
* `Node.ofJson?_raw` — members that are all there are read back.
* `Node.merged_raw_add` — a message under a clashing name leaves no trace.
* `Report.ofJson?_toJson` — **reports can be read back exactly if no names clash.**
-/

namespace DataShape

namespace Entries

variable {κ α : Type} [DecidableEq κ]

/-- A value that is written over later leaves no trace. -/
lemma ofList_cons_of_mem {key : κ} {pairs : List (κ × α)} (h : key ∈ keys pairs) (first other : α) :
    ofList ((key, first) :: pairs) = ofList ((key, other) :: pairs) := by
  suffices hgen : ∀ entries : Entries κ α,
      pairs.foldl (fun entries pair => insert pair.1 pair.2 entries) ((key, first) :: entries) =
        pairs.foldl (fun entries pair => insert pair.1 pair.2 entries) ((key, other) :: entries) from
    hgen []
  induction pairs with
  | nil => exact absurd h List.not_mem_nil
  | cons pair rest ih =>
      intro entries
      rw [List.foldl_cons, List.foldl_cons, insert, insert, alter, alter]
      split_ifs with hkey
      · rfl
      · refine ih ((List.mem_cons.mp h).resolve_left hkey) _

/-- A change that an image does not show leaves the images of all values as they are. -/
lemma map_alter_of_eq {β : Type} {g : α → β} {key : κ} {change : Option α → α} {value : α}
    {entries : Entries κ α} (h : lookup? key entries = some value)
    (hchange : g (change (some value)) = g value) :
    (alter key change entries).map (fun entry => (entry.1, g entry.2)) =
      entries.map fun entry => (entry.1, g entry.2) := by
  induction entries with
  | nil => cases h
  | cons entry rest ih =>
      obtain ⟨k, first⟩ := entry
      rw [lookup?] at h
      rw [alter]
      split_ifs at h ⊢ with hk
      · cases h
        rw [List.map_cons, List.map_cons, hchange]
      · rw [List.map_cons, List.map_cons, ih h]

end Entries

namespace Report

namespace Node

/-! ## The reader -/

/-- The texts of an array that has nothing but texts. -/
def texts? : List Json → Option (List String)
  | [] => some []
  | .text s :: rest => (texts? rest).map (s :: ·)
  | _ => none

/-- The messages that a member holds, if it has the name of the messages and is an array. -/
def messagesOf? (name : String) : Json → Option (List String)
  | .array items => if name = messagesKey then texts? items else none
  | _ => none

mutual

/-- The node that an object stands for. -/
def ofJson? : Json → Option Node
  | .object members => ofMembers? members
  | _ => none

/-- The node with the messages and the branches that members stand for. -/
def ofMembers? : List (String × Json) → Option Node
  | [] => some empty
  | (name, value) :: rest =>
    match messagesOf? name value with
    | some messages => (ofMembers? rest).map fun n => ⟨messages ++ n.messages, n.children⟩
    | none => (ofJson? value).bind fun child =>
      (ofMembers? rest).map fun n => ⟨n.messages, (name, child) :: n.children⟩

end

/-! ## Members that are all there -/

lemma messagesMember_of_ne_nil {messages : List String} (h : messages ≠ []) :
    messagesMember messages = [(messagesKey, .array (messages.map .text))] := by
  rw [messagesMember, List.isEmpty_eq_false_iff.mpr h]
  rfl

lemma texts?_map_text (messages : List String) :
    texts? (messages.map .text) = some messages := by
  induction messages with
  | nil => rfl
  | cons message rest ih => rw [List.map_cons, texts?, ih, Option.map_some]

mutual

/-- **A node is read back** from its members. -/
lemma ofJson?_raw : ∀ n : Node, ofJson? n.raw = some n
  | ⟨messages, children⟩ => by
      have hchildren := ofMembers?_rawChildren children
      rw [raw, ofJson?]
      cases messages with
      | nil => exact hchildren
      | cons message rest =>
          rw [messagesMember_of_ne_nil (List.cons_ne_nil message rest), List.cons_append,
            List.nil_append, ofMembers?, messagesOf?, if_pos rfl, texts?_map_text, hchildren]
          simp [Node.messages, Node.children]

lemma ofMembers?_rawChildren : ∀ children : List (String × Node),
    ofMembers? (rawChildren children) = some ⟨[], children⟩
  | [] => rfl
  | (name, child) :: rest => by
      -- A branch is an object, and so not taken for messages.
      have hbranch : messagesOf? name child.raw = none := by
        obtain ⟨messages, children⟩ := child
        rw [raw, messagesOf?]
        exact fun _ => Json.noConfusion
      rw [rawChildren, ofMembers?, hbranch, ofJson?_raw child, ofMembers?_rawChildren rest]
      rfl

end

/-! ## Messages that are gone -/

/-- A node below another one is found by names. -/
lemma Grown.exists_get?_of_within {n node : Node} (h : n.Grown) (hnode : node.Within n) :
    ∃ names, n.get? names = some node := by
  induction hnode with
  | refl => exact ⟨[], rfl⟩
  | @branch messages children entry hentry _ ih =>
      cases h with
      | intro hnames hbelow _ =>
          obtain ⟨names, hget⟩ := ih (hbelow _ hentry)
          refine ⟨entry.1 :: names, ?_⟩
          rw [get?_cons, (Entries.lookup?_eq_some_iff hnames).mpr hentry, Option.bind_some, hget]

/-- **A message under a clashing name leaves no trace** in JSON. -/
lemma merged_raw_add (message : String) {n node : Node} {names : List String}
    (hnode : n.get? names = some node) (hclash : node.Clashing) :
    (n.add message names).raw.merged = n.raw.merged := by
  induction names generalizing n with
  | nil =>
      cases hnode
      obtain ⟨messages, children⟩ := node
      obtain ⟨hmessages, hname⟩ := hclash
      have hmessages : messages ≠ [] := hmessages
      have hmore : messages ++ [message] ≠ [] := List.append_ne_nil_of_left_ne_nil hmessages _
      have hkeys : messagesKey ∈
          Entries.keys (children.map fun branch => (branch.1, branch.2.raw.merged)) := by
        rw [Entries.keys, List.map_map]
        exact hname
      rw [add, merged_raw, merged_raw, messagesMember_of_ne_nil hmessages,
        messagesMember_of_ne_nil hmore]
      exact congrArg Json.object (Entries.ofList_cons_of_mem hkeys _ _)
  | cons name rest ih =>
      obtain ⟨messages, children⟩ := n
      rw [get?_cons] at hnode
      obtain ⟨child, hchild, hrest⟩ := Option.bind_eq_some_iff.mp hnode
      rw [add, merged_raw, merged_raw,
        Entries.map_alter_of_eq (g := fun child : Node => child.raw.merged) hchild (ih hrest)]

end Node

/-! ## Reports -/

/-- The name and the node of the report that an object with one member stands for. -/
def ofJson? : Json → Option (String × Node)
  | .object [(rootKey, value)] => (Node.ofJson? value).map (rootKey, ·)
  | _ => none

/-- Without clashing names all members are there. -/
lemma Grown.ofJson?_eq_some {r : Report} (h : r.Grown) (hclash : ¬ r.Clashes) {top : Node}
    (htop : r.top = some top) : ofJson? r.toJson = some (r.rootKey, top) := by
  rw [toJson, Json.merged_eq_self (h.distinct_raw_iff.mpr hclash), raw, htop]
  simp only [ofJson?, Node.ofJson?_raw, Option.map_some]

/-- Where names clash, a message can be added that leaves no trace. -/
lemma Grown.exists_toJson_add_eq {r : Report} (h : r.Grown) (hclash : r.Clashes)
    (message : String) : ∃ path, (r.add path message).toJson = r.toJson := by
  obtain ⟨top, node, htop, hnode, hclashing⟩ := hclash
  obtain ⟨names, hnames⟩ := (h top htop).exists_get?_of_within hnode
  refine ⟨names.map .key, ?_⟩
  have hadded : (r.add (names.map .key) message).top = some (top.add message names) := by
    rw [Report.add, htop, Option.getD_some, Path.render_keys]
  rw [toJson_eq hadded, toJson_eq htop, Node.merged_raw_add message hnames hclashing]
  rfl

/-- A report with a message more is another one. -/
lemma Grown.equal_add_eq_false {r : Report} (h : r.Grown) (path : Path) (message : String) :
    (r.add path message).equal r = false := by
  rw [← Bool.not_eq_true, (h.add path message).equal_iff h rfl rfl]
  intro hall
  have hmessages := hall path
  rw [messagesAt_add, if_pos rfl] at hmessages
  simp at hmessages

/-- **Reports can be read back exactly if no names clash.**  From the JSON value of a report with
messages in which no node has both messages and a branch with their name, the name of the topmost
node and all nodes with their messages and branches are read back, in order.  Every report with such
a node has the JSON value of another report under the same settings. -/
theorem ofJson?_toJson (settings : Settings) (log : List (Path × String)) :
    (log ≠ [] → ¬ ((new settings).addAll log).Clashes →
      ∃ top, ((new settings).addAll log).top = some top ∧
        ofJson? ((new settings).addAll log).toJson = some (settings.rootKey, top)) ∧
    (((new settings).addAll log).Clashes → ∃ more,
      ((new settings).addAll more).equal ((new settings).addAll log) = false ∧
        ((new settings).addAll more).toJson = ((new settings).addAll log).toJson) := by
  have hgrown := (grown_new settings).addAll log
  constructor
  · intro hlog hclash
    have hsome : ((new settings).addAll log).isEmpty = false := by
      rw [isEmpty_addAll, List.isEmpty_eq_false_iff.mpr hlog, Bool.and_false]
    rw [isEmpty, Option.isNone_eq_false_iff] at hsome
    obtain ⟨top, htop⟩ := Option.isSome_iff_exists.mp hsome
    refine ⟨top, htop, ?_⟩
    rw [hgrown.ofJson?_eq_some hclash htop, rootKey_addAll]
    rfl
  · intro hclash
    obtain ⟨path, hjson⟩ := hgrown.exists_toJson_add_eq hclash ""
    refine ⟨log ++ [(path, "")], ?_, ?_⟩
    · rw [addAll_append]
      exact hgrown.equal_add_eq_false path ""
    · rw [addAll_append]
      exact hjson

/-- A branch named like the messages, first beside none and then, one level down, beside some. -/
theorem ofJson?_toJson_of_log :
    let log := [([Segment.key "errors", .index 0], "first"), ([.key "errors", .key "a"], "second")]
    let more := log ++ [([.key "errors", .index 0, .key "errors"], "third")]
    let r := (new .usual).addAll log
    let clashing := (new .usual).addAll more
    (log ≠ [] ∧ ¬ r.Clashes ∧ ∃ top, r.top = some top ∧ ofJson? r.toJson = some ("_root_", top)) ∧
    clashing.Clashes ∧ ∃ others, ((new .usual).addAll others).equal clashing = false ∧
      ((new .usual).addAll others).toJson = clashing.toJson := by
  intro log more r clashing
  have hlog : log ≠ [] := List.cons_ne_nil _ _
  have hclear : ¬ r.Clashes := by
    rw [← ((grown_new .usual).addAll log).distinct_raw_iff]
    exact (Json.compact_merged_eq_iff r.raw).mp (by decide +kernel)
  have hclash : clashing.Clashes := by
    refine ⟨_, ⟨["first"], [("errors", ⟨["third"], []⟩)]⟩, rfl, ?_, ?_⟩
    · exact .branch List.mem_cons_self (.branch List.mem_cons_self (.refl _))
    · exact ⟨List.cons_ne_nil _ _, List.mem_cons_self⟩
  exact ⟨⟨hlog, hclear, (ofJson?_toJson .usual log).1 hlog hclear⟩, hclash,
    (ofJson?_toJson .usual more).2 hclash⟩

end Report

end DataShape
