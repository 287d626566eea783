import DataShape.Proofs.Json.Parts
import DataShape.Proofs.Report.Log

/-!
# What a rendered report shows

In JSON a node of a report is an object.  Its messages stand in one member, as an array, and every
branch is another member under its own name.  A branch may have the name that the messages have; the
object keeps one member of a name, the later one, so such a branch takes the place of the messages.
Nothing else gets lost: a message is shown in the object of its place unless a branch of that name
goes off there.

* `Node.Grown` — the nodes that reports are made of.
* `Node.member?_merged_raw` — the members of a node in JSON.
* `Report.Shows` — the JSON form of a report has a message at its place.
* `Report.shows_iff` — **a message is shown exactly if no branch takes the name of the messages.**
-/

namespace DataShape

namespace Report

namespace Node

/-! ## Nodes on the way to a message -/

/-- A node with a message at it or below it, whose branches have different names and are such nodes
too. -/
inductive Grown : Node → Prop
  | intro {messages : List String} {children : List (String × Node)} :
      (Entries.keys children).Nodup → (∀ branch ∈ children, Grown branch.2) →
      (messages ≠ [] ∨ children ≠ []) → Grown ⟨messages, children⟩

/-- A message makes every node on its way such a node. -/
lemma grown_add (message : String) (names : List String) {messages : List String}
    {children : List (String × Node)} (hnames : (Entries.keys children).Nodup)
    (hbelow : ∀ branch ∈ children, Grown branch.2) :
    Grown (add message names ⟨messages, children⟩) := by
  induction names generalizing messages children with
  | nil => exact .intro hnames hbelow (.inl (by simp))
  | cons name rest ih =>
      refine .intro (Entries.nodup_keys_alter name _ hnames)
        (Entries.forall_mem_alter hbelow ?_) (.inr ?_)
      · cases hchild : Entries.lookup? name children with
        | none => exact ih List.nodup_nil fun _ hbranch => absurd hbranch List.not_mem_nil
        | some child =>
            cases hbelow _ (Entries.mem_of_lookup? hchild) with
            | intro hnames hbelow _ => exact ih hnames hbelow
      · exact List.ne_nil_of_mem (Entries.mem_of_lookup? (Entries.lookup?_alter_self name _ _))

lemma messagesAt_of_mem {messages : List String} {children : List (String × Node)}
    (h : (Entries.keys children).Nodup) {branch : String × Node} (hbranch : branch ∈ children)
    (names : List String) :
    messagesAt (branch.1 :: names) ⟨messages, children⟩ = branch.2.messagesAt names := by
  rw [messagesAt_cons, (Entries.lookup?_eq_some_iff h).mpr hbranch, Option.getD_some]

lemma Grown.exists_messagesAt {n : Node} (h : n.Grown) : ∃ names, n.messagesAt names ≠ [] := by
  induction h with
  | @intro messages children hnames _ hsome ih =>
      rcases hsome with hmessages | hchildren
      · exact ⟨[], hmessages⟩
      · obtain ⟨branch, hbranch⟩ := List.exists_mem_of_ne_nil _ hchildren
        obtain ⟨names, hmessages⟩ := ih branch hbranch
        exact ⟨branch.1 :: names, by rwa [messagesAt_of_mem hnames hbranch]⟩

lemma get?_append (names more : List String) (n : Node) :
    n.get? (names ++ more) = (n.get? names).bind (get? more) := by
  induction names generalizing n with
  | nil => rfl
  | cons name rest ih =>
      rw [List.cons_append, get?, get?]
      cases n.child? name with
      | none => rfl
      | some child => exact ih child

lemma Grown.child {n child : Node} {name : String} (h : n.Grown)
    (hchild : n.child? name = some child) : child.Grown := by
  cases h with
  | intro _ hbelow _ => exact hbelow _ (Entries.mem_of_lookup? hchild)

/-! ## Nodes in JSON -/

lemma rawChildren_eq (children : List (String × Node)) :
    rawChildren children = children.map fun branch => (branch.1, branch.2.raw) := by
  induction children with
  | nil => rfl
  | cons branch rest ih =>
      obtain ⟨name, child⟩ := branch
      rw [rawChildren, ih, List.map_cons]

/-- A node in JSON is an object. -/
lemma merged_raw (messages : List String) (children : List (String × Node)) :
    (raw ⟨messages, children⟩).merged = .object (Entries.ofList (messagesMember messages ++
      children.map fun branch => (branch.1, branch.2.raw.merged))) := by
  have hmessages : Json.mergedMembers (messagesMember messages) = messagesMember messages := by
    rw [messagesMember]
    split_ifs
    · rfl
    · rw [Json.mergedMembers, Json.merged_array_text, Json.mergedMembers]
  rw [raw, Json.merged, rawChildren_eq, Json.mergedMembers_eq, List.map_append,
    ← Json.mergedMembers_eq, hmessages, List.map_map]
  rfl

/-- **The members of a node in JSON**: its branches, and its messages where no branch has their
name. -/
lemma member?_merged_raw (messages : List String) {children : List (String × Node)}
    (h : (Entries.keys children).Nodup) (name : String) :
    (raw ⟨messages, children⟩).merged.member? name =
      ((Entries.lookup? name children).map fun child => child.raw.merged).or
        (Entries.lookup? name (messagesMember messages)) := by
  have hmessages : Entries.ofList (messagesMember messages) = messagesMember messages := by
    refine Entries.ofList_of_nodup ?_
    rw [messagesMember]
    split_ifs <;> simp [Entries.keys]
  rw [merged_raw, Json.member?, Entries.lookup?_ofList_append, hmessages,
    Entries.lookup?_map name fun child : Node => child.raw.merged]
  simpa [Entries.keys, Function.comp_def] using h

lemma Grown.member?_of_child {n child : Node} {name : String} (h : n.Grown)
    (hchild : n.child? name = some child) : n.raw.merged.member? name = some child.raw.merged := by
  obtain ⟨messages, children⟩ := n
  have hlookup : Entries.lookup? name children = some child := hchild
  cases h with
  | intro hnames _ _ =>
      rw [member?_merged_raw _ hnames, hlookup]
      rfl

/-- The names that lead to a node lead to the node in JSON. -/
lemma Grown.get?_merged_raw {n node : Node} {names : List String} (h : n.Grown)
    (hnode : n.get? names = some node) :
    node.Grown ∧ n.raw.merged.get? names = some node.raw.merged := by
  induction names generalizing n with
  | nil =>
      cases hnode
      exact ⟨h, rfl⟩
  | cons name rest ih =>
      obtain ⟨child, hchild, hrest⟩ := Option.bind_eq_some_iff.mp hnode
      obtain ⟨hgrown, hget⟩ := ih (h.child hchild) hrest
      refine ⟨hgrown, ?_⟩
      rw [Json.get?, h.member?_of_child hchild]
      exact hget

/-- The messages of a node are found in its object exactly if no branch has their name. -/
lemma Grown.exists_texts_iff {n : Node} (h : n.Grown) {message : String}
    (hmessage : message ∈ n.messages) :
    (∃ texts, n.raw.merged.member? messagesKey = some (.array texts) ∧ .text message ∈ texts) ↔
      n.child? messagesKey = none := by
  obtain ⟨messages, children⟩ := n
  cases h with
  | intro hnames hbelow hsome =>
      rw [member?_merged_raw _ hnames, child?, Node.children]
      cases hchild : Entries.lookup? messagesKey children with
      | some child =>
          obtain ⟨texts, branches⟩ := child
          simp [merged_raw]
      | none =>
          have hmessages : messages.isEmpty = false := by
            rw [List.isEmpty_eq_false_iff]
            exact List.ne_nil_of_mem hmessage
          refine iff_of_true ⟨messages.map .text, ?_, List.mem_map_of_mem hmessage⟩ rfl
          simp [messagesMember, hmessages, Entries.lookup?]

end Node

/-! ## Reports in JSON -/

/-- The report has only nodes that are on the way to a message. -/
def Grown (r : Report) : Prop := ∀ node, r.top = some node → node.Grown

lemma grown_new (settings : Settings) : (new settings).Grown := fun _ hnode => by cases hnode

lemma Grown.add {r : Report} (h : r.Grown) (path : Path) (message : String) :
    (r.add path message).Grown := by
  rintro node hnode
  cases hnode
  cases htop : r.top with
  | none =>
      exact Node.grown_add message _ List.nodup_nil fun _ hbranch => absurd hbranch List.not_mem_nil
  | some top =>
      cases h top htop with
      | intro hnames hbelow _ => exact Node.grown_add message _ hnames hbelow

lemma Grown.addAll {r : Report} (h : r.Grown) (log : List (Path × String)) :
    (r.addAll log).Grown := by
  induction log generalizing r with
  | nil => exact h
  | cons entry rest ih => exact ih (h.add entry.1 entry.2)

/-- The JSON form of a report has a message where the names of a path lead to, among the messages
of that object. -/
def Shows (r : Report) (place : Path) (message : String) : Prop :=
  ∃ object texts, r.toJson.get? (r.rootKey :: place.render r.indexMark) = some object ∧
    object.member? Node.messagesKey = some (.array texts) ∧ .text message ∈ texts

lemma toJson_eq {r : Report} {node : Node} (h : r.top = some node) :
    r.toJson = .object [(r.rootKey, node.raw.merged)] := by
  rw [toJson, raw, h]
  rfl

lemma exists_get?_of_mem_messagesAt {r : Report} {place : Path} {message : String}
    (h : message ∈ r.messagesAt place) :
    ∃ node, r.get? place = some node ∧ message ∈ node.messages := by
  rw [messagesAt] at h
  cases hnode : r.get? place with
  | none => simp [hnode] at h
  | some node => exact ⟨node, rfl, by simpa [hnode] using h⟩

lemma get?_append (r : Report) (place below : Path) :
    r.get? (place ++ below) = (r.get? place).bind (Node.get? (below.render r.indexMark)) := by
  rw [get?, get?, Path.render_append]
  cases r.top with
  | none => rfl
  | some top => exact Node.get?_append _ _ top

lemma get?_push_key {r : Report} {place : Path} {node : Node} (h : r.get? place = some node)
    (name : String) : r.get? (place.push (.key name)) = node.child? name := by
  rw [Path.push, get?_append, h, Option.bind_some]
  exact Option.bind_fun_some (node.child? name)

/-- A node is there because of a message at it or below it. -/
lemma Grown.exists_messagesAt {r : Report} (h : r.Grown) {place : Path} {node : Node}
    (hnode : r.get? place = some node) : ∃ below : Path, r.messagesAt (place ++ below) ≠ [] := by
  obtain ⟨top, htop, hnames⟩ := Option.bind_eq_some_iff.mp hnode
  obtain ⟨names, hmessages⟩ := ((h top htop).get?_merged_raw hnames).1.exists_messagesAt
  refine ⟨names.map .key, ?_⟩
  have hrender : Path.render r.indexMark (place ++ names.map .key) =
      place.render r.indexMark ++ names := by
    rw [Path.render_append, Path.render_keys]
  rw [messagesAt_eq, htop, Option.getD_some, hrender, Node.messagesAt, Node.get?_append, hnames]
  exact hmessages

/-- **A message of a report is shown exactly if no branch takes the name of the messages.** -/
theorem shows_iff {r : Report} (h : r.Grown) {place : Path} {message : String}
    (hmessage : message ∈ r.messagesAt place) :
    r.Shows place message ↔ r.get? (place.push (.key Node.messagesKey)) = none := by
  obtain ⟨node, hnode, hmem⟩ := exists_get?_of_mem_messagesAt hmessage
  obtain ⟨top, htop, hnames⟩ := Option.bind_eq_some_iff.mp hnode
  obtain ⟨hgrown, hget⟩ := (h top htop).get?_merged_raw hnames
  have hobject : r.toJson.get? (r.rootKey :: place.render r.indexMark) =
      some node.raw.merged := by
    rw [toJson_eq htop, Json.get?, Json.member?, Entries.lookup?, if_pos rfl]
    exact hget
  rw [get?_push_key hnode, ← hgrown.exists_texts_iff hmem, Shows, hobject]
  simp

lemma Shows.isEmpty_eq_false {r : Report} {place : Path} {message : String}
    (h : r.Shows place message) : r.isEmpty = false := by
  obtain ⟨object, texts, hobject, -⟩ := h
  cases htop : r.top with
  | none =>
      rw [toJson, raw, htop] at hobject
      cases hobject
  | some node =>
      rw [isEmpty, htop]
      rfl

/-- What is shown is printed, in both forms. -/
lemma Shows.textChars_infix {r : Report} {place : Path} {message : String}
    (h : r.Shows place message) :
    Json.textChars message <:+: r.compact.toList ∧ Json.textChars message <:+: r.pretty.toList := by
  obtain ⟨object, texts, hobject, hmember, hmessage⟩ := h
  exact Json.textChars_infix (Json.within_of_get? hobject
    (Json.within_of_member? hmember (.item hmessage (.refl _))))

end Report

end DataShape
