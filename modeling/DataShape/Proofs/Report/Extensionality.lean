import DataShape.Proofs.Report.Nodes
import DataShape.Report.Equality

/-!
# Reports are known by their messages

A report that was written from nothing has a node only where there is a message at it or below it.
So its branches can be told from its messages: a branch goes off exactly if there is a message below
its name.  Two such reports that have the same messages at every path have the same branches, though
perhaps in another order, and are equal.  Therefore the order in which messages were added does not
matter, except among those of one place.

* `Node.Grown.mem_keys_iff` — which branches there are.
* `Node.Grown.messagesAt_eq_of_equal`, `Node.Grown.equal_of_messagesAt_eq` — nodes are equal exactly
  if they have the same messages everywhere.
* `Report.equal_addAll_new_iff` — **reports with the same messages everywhere are equal.**
-/

namespace DataShape

namespace Report

namespace Node

lemma foundEqual_iff (children branches : List (String × Node)) :
    foundEqual children branches = true ↔ ∀ entry ∈ children,
      ∃ branch, Entries.lookup? entry.1 branches = some branch ∧ entry.2.equal branch = true := by
  induction children with
  | nil => simp [foundEqual]
  | cons entry rest ih =>
      obtain ⟨name, child⟩ := entry
      rw [foundEqual, Bool.and_eq_true, ih, List.forall_mem_cons]
      refine and_congr_left' ?_
      cases Entries.lookup? name branches <;> simp

lemma equal_iff (messages others : List String) (children branches : List (String × Node)) :
    equal ⟨messages, children⟩ ⟨others, branches⟩ = true ↔
      messages = others ∧ children.length = branches.length ∧ ∀ entry ∈ children,
        ∃ branch, Entries.lookup? entry.1 branches = some branch ∧
          entry.2.equal branch = true := by
  rw [equal, Bool.and_eq_true, Bool.and_eq_true, beq_iff_eq, beq_iff_eq, foundEqual_iff]

/-! ## Branches and messages -/

variable {n other : Node}

lemma Grown.nodup_keys (h : n.Grown) : (Entries.keys n.children).Nodup := by
  cases h with
  | intro hnames _ _ => exact hnames

/-- A branch goes off exactly if there is a message below its name. -/
lemma Grown.mem_keys_iff (h : n.Grown) (name : String) :
    name ∈ Entries.keys n.children ↔ ∃ rest, n.messagesAt (name :: rest) ≠ [] := by
  cases h with
  | @intro messages children hnames hbelow _ =>
      constructor
      · intro hname
        obtain ⟨branch, hbranch, rfl⟩ := List.mem_map.mp hname
        obtain ⟨rest, hrest⟩ := (hbelow branch hbranch).exists_messagesAt
        exact ⟨rest, by rwa [messagesAt_of_mem hnames hbranch]⟩
      · rintro ⟨rest, hrest⟩
        by_contra hname
        have hnone : Entries.lookup? name children = none := Entries.lookup?_eq_none hname
        rw [messagesAt_cons, hnone] at hrest
        exact hrest (messagesAt_empty rest)

/-- Nodes with the same messages everywhere have the same branches. -/
lemma Grown.keys_perm (h : n.Grown) (h' : other.Grown)
    (hsame : ∀ names, n.messagesAt names = other.messagesAt names) :
    (Entries.keys n.children).Perm (Entries.keys other.children) := by
  refine (List.perm_ext_iff_of_nodup h.nodup_keys h'.nodup_keys).mpr fun name => ?_
  rw [h.mem_keys_iff, h'.mem_keys_iff]
  simp only [hsame]

/-! ## Equal nodes -/

/-- Equal nodes have the same messages everywhere. -/
lemma Grown.messagesAt_eq_of_equal (h : n.Grown) (h' : other.Grown)
    (hequal : n.equal other = true) (names : List String) :
    n.messagesAt names = other.messagesAt names := by
  induction h generalizing other names with
  | @intro messages children hnames _ _ ih =>
      cases h' with
      | @intro others branches hnames' hbelow' _ =>
          obtain ⟨rfl, hlength, hfound⟩ := (Node.equal_iff _ _ _ _).mp hequal
          -- Only the branches of the one node are looked up; there are as many, so none is left over.
          have hkeys := Entries.keys_perm_of_found hnames hlength fun entry hentry =>
            (hfound entry hentry).imp fun _ hbranch => hbranch.1
          cases names with
          | nil => rfl
          | cons name rest =>
              by_cases hname : name ∈ Entries.keys children
              · obtain ⟨entry, hentry, rfl⟩ := List.mem_map.mp hname
                obtain ⟨branch, hbranch, hequal⟩ := hfound entry hentry
                have hmem := Entries.mem_of_lookup? hbranch
                rw [messagesAt_of_mem hnames hentry, messagesAt_of_mem hnames' hmem]
                exact ih entry hentry (hbelow' _ hmem) hequal rest
              · rw [messagesAt_cons, messagesAt_cons, Entries.lookup?_eq_none hname,
                  Entries.lookup?_eq_none (mt hkeys.mem_iff.mpr hname)]

/-- **Nodes with the same messages everywhere are equal.** -/
lemma Grown.equal_of_messagesAt_eq (h : n.Grown) (h' : other.Grown)
    (hsame : ∀ names, n.messagesAt names = other.messagesAt names) : n.equal other = true := by
  induction h generalizing other with
  | @intro messages children hnames hbelow hsome ih =>
      have hkeys := (Grown.intro hnames hbelow hsome).keys_perm h' hsame
      cases h' with
      | @intro others branches hnames' hbelow' _ =>
          have hlength : children.length = branches.length := by
            simpa [Entries.keys, Node.children] using hkeys.length_eq
          refine (Node.equal_iff _ _ _ _).mpr ⟨hsame [], hlength, fun entry hentry => ?_⟩
          obtain ⟨⟨name, branch⟩, hmem, hname⟩ :=
            List.mem_map.mp (hkeys.mem_iff.mp (List.mem_map_of_mem hentry))
          obtain rfl : name = entry.1 := hname
          refine ⟨branch, (Entries.lookup?_eq_some_iff hnames').mpr hmem, ?_⟩
          refine ih entry hentry (hbelow' _ hmem) fun rest => ?_
          have hrest := hsame (entry.1 :: rest)
          rwa [messagesAt_of_mem hnames hentry, messagesAt_of_mem hnames' hmem] at hrest

end Node

/-! ## Reports -/

/-- **Reports with the same messages everywhere are equal**, if they use the same names. -/
lemma Grown.equal_iff {r other : Report} (h : r.Grown) (h' : other.Grown)
    (hkey : r.rootKey = other.rootKey) (hmark : r.indexMark = other.indexMark) :
    r.equal other = true ↔ ∀ path, r.messagesAt path = other.messagesAt path := by
  have hpaths : (∀ path, r.messagesAt path = other.messagesAt path) ↔
      ∀ names, (r.top.getD .empty).messagesAt names = (other.top.getD .empty).messagesAt names := by
    simp only [messagesAt_eq, hmark]
    refine ⟨fun hall names => ?_, fun hall path => hall _⟩
    have hnames := hall (names.map .key)
    rwa [Path.render_keys] at hnames
  rw [hpaths, equal, hkey, hmark, beq_self_eq_true, beq_self_eq_true, Bool.true_and]
  cases htop : r.top with
  | none =>
      cases htop' : other.top with
      | none => simp
      | some another =>
          obtain ⟨names, hnames⟩ := (h' another htop').exists_messagesAt
          exact iff_of_false Bool.false_ne_true fun hall => hnames (by simpa using (hall names).symm)
  | some node =>
      cases htop' : other.top with
      | none =>
          obtain ⟨names, hnames⟩ := (h node htop).exists_messagesAt
          exact iff_of_false Bool.false_ne_true fun hall => hnames (by simpa using hall names)
      | some another =>
          have hnode := h node htop
          have hanother := h' another htop'
          exact ⟨hnode.messagesAt_eq_of_equal hanother, hnode.equal_of_messagesAt_eq hanother⟩

/-- **Reports with the same messages everywhere are equal.**  Two reports that were written from
nothing under the same settings are equal exactly if they have the same messages, in the same order,
at every path.  So messages at paths of different names may be added in either order. -/
theorem equal_addAll_new_iff (settings : Settings) :
    (∀ log more : List (Path × String),
      ((new settings).addAll log).equal ((new settings).addAll more) = true ↔
        ∀ path, ((new settings).addAll log).messagesAt path =
          ((new settings).addAll more).messagesAt path) ∧
    ∀ (before after : List (Path × String)) (entry other : Path × String),
      entry.1.render settings.indexMark ≠ other.1.render settings.indexMark →
      ((new settings).addAll (before ++ entry :: other :: after)).equal
        ((new settings).addAll (before ++ other :: entry :: after)) = true := by
  have hequal : ∀ log more : List (Path × String),
      ((new settings).addAll log).equal ((new settings).addAll more) = true ↔
        ∀ path, ((new settings).addAll log).messagesAt path =
          ((new settings).addAll more).messagesAt path := fun log more =>
    ((grown_new settings).addAll log).equal_iff ((grown_new settings).addAll more)
      (by simp) (by simp)
  refine ⟨hequal, fun before after entry other hne => (hequal _ _).mpr fun path => ?_⟩
  have hswap : (before ++ entry :: other :: after).filter (fun added =>
        added.1.render settings.indexMark = path.render settings.indexMark) =
      (before ++ other :: entry :: after).filter fun added =>
        added.1.render settings.indexMark = path.render settings.indexMark := by
    rw [List.filter_append, List.filter_append]
    by_cases hentry : entry.1.render settings.indexMark = path.render settings.indexMark
    · have hother : ¬ other.1.render settings.indexMark = path.render settings.indexMark :=
        fun hsame => hne (hentry.trans hsame.symm)
      simp [hentry, hother]
    · simp [hentry, List.filter_cons]
  rw [messagesAt_addAll, messagesAt_addAll]
  exact congrArg (fun found => _ ++ found.map (·.2)) hswap

/-- Branches in another order, one of them with two messages, and a message at the topmost node. -/
theorem equal_addAll_new_of_swapped :
    let entry := ([Segment.key "a"], "first")
    let other := ([Segment.key "b", .index 0], "second")
    let before := [(Path.root, "top")]
    let after := [([Segment.key "a"], "third")]
    let r := (new .usual).addAll (before ++ entry :: other :: after)
    let swapped := (new .usual).addAll (before ++ other :: entry :: after)
    Path.render Settings.usual.indexMark entry.1 ≠ Path.render Settings.usual.indexMark other.1 ∧
      r.toList ≠ swapped.toList ∧ r.equal swapped = true := by
  intro entry other before after r swapped
  have hne : Path.render Settings.usual.indexMark entry.1 ≠
      Path.render Settings.usual.indexMark other.1 := by decide
  exact ⟨hne, by decide, (equal_addAll_new_iff .usual).2 before after entry other hne⟩

end Report

end DataShape
