import DataShape.Proofs.Json.Repeated
import DataShape.Proofs.Report.Nodes

/-!
# Names that clash

A node with messages and a branch of the name that the messages have puts two members of that name
into JSON.  This is the only way in which a report comes to repeat a member.  Written member by
member, both are there; as a JSON value the report has only the later one, so its text is shorter.

* `Node.Clashing` — a node whose messages have the name of a branch.
* `Report.Clashes` — a report with such a node.
* `Report.Grown.distinct_raw_iff` — members are repeated exactly where names clash.
* `Report.compact_eq_compact_raw_iff` — **both ways of writing a report agree exactly if no names
  clash.**
-/

namespace DataShape

namespace Report

namespace Node

/-- The node has messages, and a branch with the name under which they are written. -/
def Clashing (n : Node) : Prop := n.messages ≠ [] ∧ messagesKey ∈ Entries.keys n.children

variable {n : Node}

lemma within_mk_iff {node : Node} {messages : List String} {children : List (String × Node)} :
    node.Within ⟨messages, children⟩ ↔
      node = ⟨messages, children⟩ ∨ ∃ branch ∈ children, node.Within branch.2 := by
  constructor
  · intro h
    cases h with
    | refl => exact .inl rfl
    | branch hbranch hnode => exact .inr ⟨_, hbranch, hnode⟩
  · rintro (rfl | ⟨branch, hbranch, hnode⟩)
    · exact .refl _
    · exact .branch hbranch hnode

lemma keys_rawChildren (children : List (String × Node)) :
    Entries.keys (rawChildren children) = Entries.keys children := by
  rw [rawChildren_eq, Entries.keys, List.map_map]
  rfl

/-- The names of the members of a node: that of the messages, if there are any, and those of its
branches. -/
lemma keys_members (messages : List String) (children : List (String × Node)) :
    Entries.keys (messagesMember messages ++ rawChildren children) =
      (if messages.isEmpty then [] else [messagesKey]) ++ Entries.keys children := by
  rw [Entries.keys, List.map_append, messagesMember, ← keys_rawChildren]
  split_ifs <;> rfl

lemma nodup_keys_members_iff {messages : List String} {children : List (String × Node)}
    (h : (Entries.keys children).Nodup) :
    (Entries.keys (messagesMember messages ++ rawChildren children)).Nodup ↔
      ¬ (Node.mk messages children).Clashing := by
  rw [keys_members, Clashing, Node.messages, Node.children]
  cases messages with
  | nil => simp [h]
  | cons message rest => simp [h]

/-- Texts repeat no member. -/
lemma distinct_messagesMember {messages : List String} {member : String × Json}
    (h : member ∈ messagesMember messages) : member.2.Distinct := by
  rw [messagesMember] at h
  split_ifs at h
  · exact absurd h List.not_mem_nil
  · rw [List.mem_singleton.mp h, Json.distinct_array_iff]
    intro item hitem members hmembers
    obtain ⟨message, -, rfl⟩ := List.mem_map.mp hitem
    cases hmembers

/-- **A node repeats a member exactly where names clash**, at it or below it. -/
lemma Grown.distinct_raw_iff (h : n.Grown) :
    n.raw.Distinct ↔ ∀ node : Node, node.Within n → ¬ node.Clashing := by
  induction h with
  | @intro messages children hnames _ _ ih =>
      rw [raw, Json.distinct_object_iff, nodup_keys_members_iff hnames]
      simp only [within_mk_iff]
      constructor
      · rintro ⟨hhere, hmembers⟩ node (rfl | ⟨branch, hbranch, hnode⟩)
        · exact hhere
        · refine (ih branch hbranch).mp (hmembers (branch.1, branch.2.raw) ?_) node hnode
          rw [rawChildren_eq]
          exact List.mem_append_right _ (List.mem_map_of_mem hbranch)
      · intro hall
        refine ⟨hall _ (.inl rfl), ?_⟩
        intro member hmember
        rw [rawChildren_eq] at hmember
        rcases List.mem_append.mp hmember with hmessages | hbranches
        · exact distinct_messagesMember hmessages
        · obtain ⟨branch, hbranch, rfl⟩ := List.mem_map.mp hbranches
          exact (ih branch hbranch).mpr fun node hnode => hall node (.inr ⟨branch, hbranch, hnode⟩)

end Node

/-! ## Reports -/

/-- A node of the report has messages, and a branch with the name under which they are written. -/
def Clashes (r : Report) : Prop :=
  ∃ top node, r.top = some top ∧ Node.Within node top ∧ node.Clashing

/-- **A report repeats a member exactly where names clash.** -/
lemma Grown.distinct_raw_iff {r : Report} (h : r.Grown) : r.raw.Distinct ↔ ¬ r.Clashes := by
  rw [raw, Clashes]
  cases htop : r.top with
  | none => simp [Json.distinct_object_iff, Entries.keys]
  | some top => simp [Json.distinct_object_iff, Entries.keys, (h top htop).distinct_raw_iff]

/-- **Both ways of writing a report agree exactly if no names clash.**  The text of the JSON value
of a report is the text that is written member by member, as long as no node has both messages and a
branch with their name; a single such node makes it another text. -/
theorem compact_eq_compact_raw_iff (settings : Settings) (log : List (Path × String)) :
    ((new settings).addAll log).compact = ((new settings).addAll log).raw.compact ↔
      ¬ ((new settings).addAll log).Clashes := by
  rw [compact, toJson, Json.compact_merged_eq_iff]
  exact ((grown_new settings).addAll log).distinct_raw_iff

end Report

end DataShape
