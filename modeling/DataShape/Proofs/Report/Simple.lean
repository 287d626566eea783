import DataShape.Proofs.Report.Rendering
import DataShape.Proofs.Report.Traversal

/-!
# Reports with messages at their ends

Two messages about one place share a node, and a message about a place above another one stands at a
node with branches.  Neither happens if the places of a log are separate, that is, if none of them
is another one or on the way to it.  Then the report has its messages at its ends, one at each.

* `Node.Simple` — one message and nothing below it, or branches and no message.
* `Node.Separate` — neither of two places is on the way to the other.
* `Node.Simple.add` — a message at a place of its own keeps a node simple.
* `Report.simple_addAll_new` — **the report of separate places is simple.**
-/

namespace DataShape

namespace Report

namespace Node

/-- A node with one message and nothing below it, or one with no message and with branches, all such
nodes and under different names. -/
inductive Simple : Node → Prop
  | message (message : String) : Simple ⟨[message], []⟩
  | branches {children : List (String × Node)} :
      (Entries.keys children).Nodup → (∀ branch ∈ children, Simple branch.2) → children ≠ [] →
      Simple ⟨[], children⟩

variable {n node : Node} {names : List String}

lemma Simple.grown (h : n.Simple) : n.Grown := by
  induction h with
  | message message =>
      have hsome : [message] ≠ [] := List.cons_ne_nil _ _
      exact .intro List.nodup_nil (fun _ hbranch => absurd hbranch List.not_mem_nil) (.inl hsome)
  | branches hnames _ hsome ih => exact .intro hnames ih (.inr hsome)

lemma Simple.get? (h : n.Simple) (hnode : n.get? names = some node) : node.Simple := by
  induction names generalizing n with
  | nil =>
      cases hnode
      exact h
  | cons name rest ih =>
      obtain ⟨child, hchild, hrest⟩ := Option.bind_eq_some_iff.mp hnode
      cases h with
      | message message => cases hchild
      | branches _ hbelow _ => exact ih (hbelow _ (Entries.mem_of_lookup? hchild)) hrest

/-- There is nothing else to a node with a message. -/
lemma Simple.eq_of_mem (h : n.Simple) {message : String} (hmessage : message ∈ n.messages) :
    n = ⟨[message], []⟩ := by
  cases h with
  | message first => rw [List.mem_singleton.mp hmessage]
  | branches _ _ _ => exact absurd hmessage List.not_mem_nil

/-! ## Separate places -/

/-- Neither of two places is the other one or on the way to it. -/
def Separate (names other : List String) : Prop := ¬ names <+: other ∧ ¬ other <+: names

lemma separate_cons_iff {name : String} {names other : List String} :
    Separate (name :: names) (name :: other) ↔ Separate names other := by
  simp [Separate, List.cons_prefix_cons]

lemma separate_of_ne {name second : String} (h : name ≠ second) (names other : List String) :
    Separate (name :: names) (second :: other) := by
  simp [Separate, List.cons_prefix_cons, h, h.symm]

lemma simple_add_empty (message : String) (names : List String) :
    (empty.add message names).Simple := by
  induction names with
  | nil => exact .message message
  | cons name rest ih =>
      refine .branches (List.nodup_singleton name) ?_ (List.cons_ne_nil _ _)
      exact fun branch hbranch => List.mem_singleton.mp hbranch ▸ ih

/-- **A message at a place of its own keeps a node simple.** -/
lemma Simple.add (message : String) (h : n.Simple)
    (hnames : ∀ other, n.messagesAt other ≠ [] → Separate other names) :
    (n.add message names).Simple := by
  induction names generalizing n with
  | nil =>
      -- A simple node has a message somewhere, and the way there begins at the node itself.
      obtain ⟨other, hother⟩ := h.grown.exists_messagesAt
      exact absurd other.nil_prefix (hnames other hother).2
  | cons name rest ih =>
      cases h with
      | message first =>
          have hhere := hnames [] (List.cons_ne_nil first [])
          exact absurd (List.nil_prefix) hhere.1
      | @branches children hbranches hbelow _ =>
          refine .branches (Entries.nodup_keys_alter name _ hbranches)
            (Entries.forall_mem_alter hbelow ?_) ?_
          · cases hchild : Entries.lookup? name children with
            | none => exact simple_add_empty message rest
            | some child =>
                refine ih (hbelow _ (Entries.mem_of_lookup? hchild)) fun other hother => ?_
                refine separate_cons_iff.mp (hnames (name :: other) ?_)
                rwa [messagesAt_cons, hchild]
          · exact List.ne_nil_of_mem (Entries.mem_of_lookup? (Entries.lookup?_alter_self name _ _))

/-- Messages at separate places keep a node simple. -/
lemma Simple.addAll {log : Log} (h : n.Simple)
    (hlog : log.Pairwise fun entry other => Separate entry.1 other.1)
    (hnames : ∀ entry ∈ log, ∀ other, n.messagesAt other ≠ [] → Separate other entry.1) :
    (n.addAll log).Simple := by
  induction log generalizing n with
  | nil => exact h
  | cons entry rest ih =>
      rw [List.pairwise_cons] at hlog
      rw [List.forall_mem_cons] at hnames
      refine ih (h.add entry.2 hnames.1) hlog.2 fun later hlater other hother => ?_
      rw [messagesAt_add] at hother
      split_ifs at hother with hsame
      · exact hsame ▸ hlog.1 later hlater
      · rw [List.append_nil] at hother
        exact hnames.2 later hlater other hother

/-- Messages at separate places make a simple node. -/
theorem simple_addAll_empty {log : Log}
    (hlog : log.Pairwise fun entry other => Separate entry.1 other.1) (hsome : log ≠ []) :
    (empty.addAll log).Simple := by
  cases log with
  | nil => exact absurd rfl hsome
  | cons entry rest =>
      rw [List.pairwise_cons] at hlog
      refine (simple_add_empty entry.2 entry.1).addAll hlog.2 fun later hlater other hother => ?_
      rw [messagesAt_add, messagesAt_empty] at hother
      split_ifs at hother with hsame
      · exact hsame ▸ hlog.1 later hlater
      · exact absurd rfl hother

end Node

/-! ## Reports -/

/-- All nodes of the report are simple. -/
def Simple (r : Report) : Prop := ∀ node, r.top = some node → node.Simple

/-- **The report of separate places is simple.** -/
theorem simple_addAll_new {settings : Settings} {log : List (Path × String)}
    (h : (log.map fun entry => (entry.1.render settings.indexMark, entry.2)).Pairwise
      fun entry other => Node.Separate entry.1 other.1) :
    ((new settings).addAll log).Simple := by
  intro node hnode
  have hsome : log ≠ [] := by
    rintro rfl
    cases hnode
  have htop := top_addAll (new settings) log
  rw [hnode, Option.getD_some] at htop
  rw [htop]
  exact Node.simple_addAll_empty h (mt List.map_eq_nil_iff.mp hsome)

variable {r : Report} {place : Path} {message : String}

/-- A message of a simple report stands alone at its place. -/
lemma Simple.get?_eq (h : r.Simple) (hmessage : message ∈ r.messagesAt place) :
    r.get? place = some ⟨[message], []⟩ := by
  obtain ⟨node, hnode, hmem⟩ := exists_get?_of_mem_messagesAt hmessage
  obtain ⟨top, htop, hget⟩ := Option.bind_eq_some_iff.mp hnode
  rw [hnode, ((h top htop).get? hget).eq_of_mem hmem]

lemma Simple.get?_append_eq_none (h : r.Simple) (hmessage : message ∈ r.messagesAt place)
    {below : Path} (hbelow : below ≠ []) : r.get? (place ++ below) = none := by
  obtain ⟨step, rest, rfl⟩ := List.exists_cons_of_ne_nil hbelow
  rw [get?_append, h.get?_eq hmessage]
  rfl

end Report

end DataShape
