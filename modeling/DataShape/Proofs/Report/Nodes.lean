import Mathlib.Data.Finset.Dedup
import Mathlib.Data.Finset.Card
import Mathlib.Data.List.Infix
import DataShape.Proofs.Report.Rendering

/-!
# The nodes of a report

A report has one node for every place on the way to a message, whatever the order in which the
messages came and however often two of them share a part of their way.  A place is known by the
names that lead to it, so the nodes can be listed by their names; no list of names comes twice, and
those that are there are the prefixes of the names of the paths in the log.

* `Node.places` — the nodes by the names that lead to them.
* `Node.count_eq_length_places`, `Node.Grown.nodup_places` — each node has names of its own.
* `Node.isSome_get?_add` — which nodes a message makes.
* `Node.Within` — a node and all nodes below it.
* `Report.messages_and_nodes_addAll_new` — **a report is its log, by places.**
-/

namespace DataShape

namespace Report

namespace Node

/-! ## Nodes by name -/

mutual

/-- The names that lead to each node, places before those below them. -/
def places : Node → List (List String)
  | ⟨_, children⟩ => [] :: placesBelow children

/-- The names that lead to the nodes in a list of branches. -/
def placesBelow : List (String × Node) → List (List String)
  | [] => []
  | (name, child) :: rest => (places child).map (name :: ·) ++ placesBelow rest

end

lemma placesBelow_eq (children : List (String × Node)) :
    placesBelow children =
      children.flatMap fun branch => branch.2.places.map (branch.1 :: ·) := by
  induction children with
  | nil => rw [placesBelow, List.flatMap_nil]
  | cons branch rest ih =>
      obtain ⟨name, child⟩ := branch
      rw [placesBelow, ih, List.flatMap_cons]

lemma mem_placesBelow {children : List (String × Node)} {place : List String} :
    place ∈ placesBelow children ↔
      ∃ branch ∈ children, ∃ below ∈ branch.2.places, branch.1 :: below = place := by
  rw [placesBelow_eq, List.mem_flatMap]
  simp only [List.mem_map]

mutual

/-- There are as many nodes as there are places. -/
lemma count_eq_length_places : ∀ n : Node, n.count = n.places.length
  | ⟨_, children⟩ => by
      rw [count, places, List.length_cons, countChildren_eq_length_placesBelow children,
        Nat.add_comm]

lemma countChildren_eq_length_placesBelow :
    ∀ children : List (String × Node), countChildren children = (placesBelow children).length
  | [] => rfl
  | (_, child) :: rest => by
      rw [countChildren, placesBelow, List.length_append, List.length_map,
        count_eq_length_places child, countChildren_eq_length_placesBelow rest]

end

/-- **No two nodes have the same names.** -/
lemma Grown.nodup_places {n : Node} (h : n.Grown) : n.places.Nodup := by
  induction h with
  | @intro messages children hnames _ _ ih =>
      rw [places, List.nodup_cons]
      constructor
      · intro hroot
        obtain ⟨branch, -, below, -, hcons⟩ := mem_placesBelow.mp hroot
        exact absurd hcons (List.cons_ne_nil _ _)
      rw [placesBelow_eq]
      refine List.nodup_flatMap.mpr ⟨fun branch hbranch => ?_, ?_⟩
      · exact (ih branch hbranch).map fun _ _ hsame => (List.cons.inj hsame).2
      · refine (List.pairwise_map.mp hnames).imp fun hne names hleft hright => ?_
        obtain ⟨first, -, rfl⟩ := List.mem_map.mp hleft
        obtain ⟨second, -, hsame⟩ := List.mem_map.mp hright
        exact hne (List.cons.inj hsame).1.symm

/-- The nodes that are listed are those that are found by their names. -/
lemma Grown.mem_places {n : Node} (h : n.Grown) (names : List String) :
    names ∈ n.places ↔ (n.get? names).isSome = true := by
  induction h generalizing names with
  | @intro messages children hnames _ _ ih =>
      rw [places, List.mem_cons, mem_placesBelow]
      cases names with
      | nil => exact iff_of_true (.inl rfl) rfl
      | cons name rest =>
          rw [get?, child?, Node.children]
          constructor
          · rintro (hnil | ⟨branch, hbranch, inner, hinner, hsame⟩)
            · exact absurd hnil (List.cons_ne_nil _ _)
            · obtain ⟨rfl, rfl⟩ := List.cons.inj hsame
              rw [(Entries.lookup?_eq_some_iff hnames).mpr hbranch, Option.bind_some]
              exact (ih branch hbranch inner).mp hinner
          · intro hfound
            obtain ⟨child, hchild⟩ := Option.isSome_iff_exists.mp
              (Option.isSome_of_isSome_bind hfound)
            rw [hchild, Option.bind_some] at hfound
            have hbranch := Entries.mem_of_lookup? hchild
            exact .inr ⟨_, hbranch, rest, (ih _ hbranch rest).mpr hfound, rfl⟩

/-! ## The nodes that a message makes -/

lemma get?_cons (name : String) (rest messages : List String) (children : List (String × Node)) :
    get? (name :: rest) ⟨messages, children⟩ =
      (Entries.lookup? name children).bind (get? rest) := rfl

lemma isSome_get?_empty {names : List String} (h : (empty.get? names).isSome = true) :
    names = [] := by
  cases names with
  | nil => rfl
  | cons name rest => cases h

/-- **A message makes the nodes on its way**, and no other. -/
lemma isSome_get?_add (message : String) (names other : List String) (n : Node) :
    ((n.add message names).get? other).isSome = true ↔
      (n.get? other).isSome = true ∨ other <+: names := by
  induction names generalizing other n with
  | nil =>
      obtain ⟨messages, children⟩ := n
      cases other with
      | nil => exact iff_of_true rfl (.inl rfl)
      | cons first more => rw [add, get?_cons, get?_cons, List.prefix_nil]; simp
  | cons name rest ih =>
      obtain ⟨messages, children⟩ := n
      cases other with
      | nil => exact iff_of_true rfl (.inl rfl)
      | cons first more =>
          rw [add, get?_cons, get?_cons, List.cons_prefix_cons]
          by_cases hname : first = name
          · subst hname
            rw [Entries.lookup?_alter_self, Option.bind_some, ih]
            cases Entries.lookup? first children with
            | some child => simp
            | none =>
                -- A branch that is not there yet has just its topmost node in common with the way.
                refine ⟨?_, fun h => .inr (by simpa using h)⟩
                rintro (hempty | hprefix)
                · exact .inr ⟨rfl, isSome_get?_empty hempty ▸ List.nil_prefix⟩
                · exact .inr ⟨rfl, hprefix⟩
          · rw [Entries.lookup?_alter_of_ne hname]
            simp [hname]

/-! ## A node and those below it -/

/-- The first node is the second one, or below it. -/
inductive Within : Node → Node → Prop
  | refl (n : Node) : Within n n
  | branch {node : Node} {messages : List String} {children : List (String × Node)}
      {entry : String × Node} :
      entry ∈ children → Within node entry.2 → Within node ⟨messages, children⟩

variable {n node : Node}

lemma Grown.within (h : n.Grown) (hnode : node.Within n) : node.Grown := by
  induction hnode with
  | refl => exact h
  | branch hbranch _ ih =>
      cases h with
      | intro _ hbelow _ => exact ih (hbelow _ hbranch)

/-- A node is there for a message at it or below it. -/
lemma Grown.exists_within (h : n.Grown) : ∃ below : Node, below.Within n ∧ below.messages ≠ [] := by
  induction h with
  | @intro messages children _ _ hsome ih =>
      rcases hsome with hmessages | hchildren
      · exact ⟨_, .refl _, hmessages⟩
      · obtain ⟨branch, rest, rfl⟩ := List.exists_cons_of_ne_nil hchildren
        obtain ⟨below, hbelow, hmessages⟩ := ih branch List.mem_cons_self
        exact ⟨below, .branch List.mem_cons_self hbelow, hmessages⟩

end Node

/-! ## Reports -/

/-- The names that lead to each node of a report. -/
def places (r : Report) : List (List String) :=
  match r.top with
  | some node => node.places
  | none => []

lemma size_eq_length_places (r : Report) : r.size = r.places.length := by
  rw [size, places]
  cases r.top with
  | none => rfl
  | some node => exact node.count_eq_length_places

lemma Grown.nodup_places {r : Report} (h : r.Grown) : r.places.Nodup := by
  rw [places]
  cases htop : r.top with
  | none => exact List.nodup_nil
  | some node => exact (h node htop).nodup_places

lemma Grown.mem_places {r : Report} (h : r.Grown) (names : List String) :
    names ∈ r.places ↔ (r.top.bind (Node.get? names)).isSome = true := by
  rw [places]
  cases htop : r.top with
  | none => simp
  | some node => exact (h node htop).mem_places names

lemma isSome_get?_add (r : Report) (path : Path) (message : String) (names : List String) :
    ((r.add path message).top.bind (Node.get? names)).isSome = true ↔
      (r.top.bind (Node.get? names)).isSome = true ∨ names <+: path.render r.indexMark := by
  have hadd := Node.isSome_get?_add message (path.render r.indexMark) names (r.top.getD .empty)
  refine hadd.trans ?_
  cases r.top with
  | some node => rfl
  | none =>
      refine ⟨?_, fun h => .inr (by simpa using h)⟩
      rintro (hempty | hprefix)
      · exact .inr (Node.isSome_get?_empty hempty ▸ List.nil_prefix)
      · exact .inr hprefix

/-- **The nodes of a log** are those on the way to one of its messages, besides those that were
there before. -/
lemma isSome_get?_addAll (r : Report) (log : List (Path × String)) (names : List String) :
    ((r.addAll log).top.bind (Node.get? names)).isSome = true ↔
      (r.top.bind (Node.get? names)).isSome = true ∨
        ∃ entry ∈ log, names <+: entry.1.render r.indexMark := by
  induction log generalizing r with
  | nil => simp
  | cons entry rest ih =>
      rw [addAll_cons, ih, isSome_get?_add, indexMark_add, or_assoc, List.exists_mem_cons_iff]

/-- A report that was written from nothing has the nodes on the way to its messages. -/
lemma mem_places_addAll_new (settings : Settings) (log : List (Path × String))
    (names : List String) :
    names ∈ ((new settings).addAll log).places ↔
      ∃ entry ∈ log, names <+: entry.1.render settings.indexMark := by
  rw [((grown_new settings).addAll log).mem_places, isSome_get?_addAll]
  exact or_iff_right Bool.false_ne_true

/-- **A report is its log, by places.**  Written from nothing, it has at each path the messages that
were added at a path of the same names, in their order; it has a node for a path exactly if the path
is on the way to a message, and altogether as many nodes as there are different prefixes of the
names of the paths; it is empty only without messages; and no node in it is without a message at it
or below it. -/
theorem messages_and_nodes_addAll_new (settings : Settings) (log : List (Path × String)) :
    (∀ path, ((new settings).addAll log).messagesAt path =
      (log.filter fun entry =>
        entry.1.render settings.indexMark = path.render settings.indexMark).map (·.2)) ∧
    (∀ path, (∃ node, ((new settings).addAll log).get? path = some node) ↔
      ∃ entry ∈ log, path.render settings.indexMark <+: entry.1.render settings.indexMark) ∧
    ((new settings).addAll log).size =
      (log.flatMap fun entry => (entry.1.render settings.indexMark).inits).toFinset.card ∧
    (((new settings).addAll log).isEmpty = true ↔ log = []) ∧
    ∀ top node, ((new settings).addAll log).top = some top → node.Within top →
      ∃ below : Node, below.Within node ∧ below.messages ≠ [] := by
  have hgrown := (grown_new settings).addAll log
  have hmark : ((new settings).addAll log).indexMark = settings.indexMark := indexMark_addAll _ _
  refine ⟨fun path => ?_, fun path => ?_, ?_, ?_, fun top node htop hnode => ?_⟩
  · rw [messagesAt_addAll]
    rfl
  · rw [← mem_places_addAll_new, hgrown.mem_places, get?, hmark, Option.isSome_iff_exists]
  · rw [size_eq_length_places, ← List.toFinset_card_of_nodup hgrown.nodup_places]
    refine congrArg Finset.card (Finset.ext fun names => ?_)
    rw [List.mem_toFinset, List.mem_toFinset, mem_places_addAll_new, List.mem_flatMap]
    simp only [List.mem_inits]
  · rw [isEmpty_addAll, ← List.isEmpty_iff]
    rfl
  · exact ((hgrown top htop).within hnode).exists_within

/-- Messages above, at and below one place, and two paths of one name. -/
theorem messages_and_nodes_addAll_new_of_log :
    let log := [([Segment.key "a", .index 0], "first"), ([.key "a"], "above"),
      ([.key "a", .key "idx_0"], "second"), ([.key "a", .key "idx_0", .key "b"], "below")]
    let r := (new .usual).addAll log
    let node := Node.mk ["first", "second"] [("b", ⟨["below"], []⟩)]
    let top := Node.mk [] [("a", ⟨["above"], [("idx_0", node)]⟩)]
    (r.messagesAt [.key "a", .key "idx_0"] = ["first", "second"] ∧ r.size = 4) ∧
    r.top = some top ∧ node.Within top ∧
    ∃ below : Node, below.Within node ∧ below.messages ≠ [] := by
  intro log r node top
  obtain ⟨hmessages, -, hsize, -, hbelow⟩ := messages_and_nodes_addAll_new .usual log
  have hnode : node.Within top :=
    .branch List.mem_cons_self (.branch List.mem_cons_self (.refl node))
  exact ⟨⟨hmessages _, hsize⟩, rfl, hnode, hbelow top node rfl hnode⟩

end Report

end DataShape
