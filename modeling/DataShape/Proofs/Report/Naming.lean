import DataShape.Proofs.Entries
import DataShape.Proofs.Matching.Places

/-!
# The names in a report

A report names the steps of a path, positions behind a mark.  What else there is to a report can be
told without names: a draft is a node whose branches go by the steps themselves.  Adding a message
to a draft and naming the steps can be done in either order, as long as no two steps at one place
get the same name.  So the reports of one log under two marks are the same draft under other names,
and have all in common that does not depend on names.

* `Report.Draft` — a node before its steps have names.
* `Draft.named_add` — a message may be added before or after the steps are named.
* `Report.top_addAll_eq_named` — **the report of a log is its draft with names.**
* `Report.messages_eq_of_named` — messages and nodes do not depend on the names.
-/

namespace DataShape

namespace Report

/-- A node of a report whose branches go by the steps themselves. -/
inductive Draft where
  | mk (messages : List String) (branches : List (Segment × Draft))

namespace Draft

/-- A draft with no message and nothing below it. -/
def empty : Draft := ⟨[], []⟩

/-- Adds a message at the place that a path leads to, making the branches on the way. -/
def add (message : String) : Path → Draft → Draft
  | [], ⟨messages, branches⟩ => ⟨messages ++ [message], branches⟩
  | step :: rest, ⟨messages, branches⟩ =>
    ⟨messages, Entries.alter step (fun branch => add message rest (branch.getD empty)) branches⟩

/-- Adds the messages of a log; there is no draft without a message. -/
def addAll (draft : Option Draft) (log : List (Path × String)) : Option Draft :=
  log.foldl (fun draft entry => some ((draft.getD empty).add entry.2 entry.1)) draft

mutual

/-- The node in which the steps have names. -/
def named (mark : String) : Draft → Node
  | ⟨messages, branches⟩ => ⟨messages, namedBranches mark branches⟩

/-- The branches of a node by the names of their steps. -/
def namedBranches (mark : String) : List (Segment × Draft) → List (String × Node)
  | [] => []
  | (step, branch) :: rest => (step.render mark, named mark branch) :: namedBranches mark rest

end

variable {mark : String}

lemma namedBranches_eq (branches : List (Segment × Draft)) :
    namedBranches mark branches =
      branches.map fun branch => (branch.1.render mark, branch.2.named mark) := by
  induction branches with
  | nil => rw [namedBranches, List.map_nil]
  | cons branch rest ih =>
      obtain ⟨step, draft⟩ := branch
      rw [namedBranches, ih, List.map_cons]

/-! ## Adding and naming -/

/-- Along the path, no branch has the name of the next step but that of the step itself. -/
def Apart (mark : String) : Path → Draft → Prop
  | [], _ => True
  | step :: rest, ⟨_, branches⟩ =>
    (∀ other ∈ Entries.keys branches, other.render mark = step.render mark → other = step) ∧
      ∀ branch, Entries.lookup? step branches = some branch → Apart mark rest branch

lemma apart_empty (path : Path) : Apart mark path empty := by
  cases path with
  | nil => trivial
  | cons step rest => exact ⟨fun _ hother => absurd hother List.not_mem_nil, fun _ h => by cases h⟩

lemma apart_getD {path : Path} {draft : Option Draft}
    (h : ∀ d, draft = some d → Apart mark path d) : Apart mark path (draft.getD empty) := by
  cases draft with
  | none => exact apart_empty path
  | some d => exact h d rfl

/-- A message at a path that is told apart from another one does not get into its way. -/
lemma apart_add (message : String) {path other : Path} {draft : Draft}
    (hpaths : Path.ToldApart mark path other) (h : Apart mark path draft) :
    Apart mark path (draft.add message other) := by
  induction path generalizing other draft with
  | nil => trivial
  | cons step rest ih =>
      obtain ⟨messages, branches⟩ := draft
      cases other with
      | nil => exact h
      | cons next more =>
          refine ⟨fun key hkey hname => ?_, fun branch hbranch => ?_⟩
          · rcases Entries.mem_keys_alter hkey with hkey | rfl
            · exact h.1 key hkey hname
            · exact (hpaths.head hname.symm).symm
          · by_cases hstep : step = next
            · subst hstep
              rw [Entries.lookup?_alter_self, Option.some.injEq] at hbranch
              rw [← hbranch]
              exact ih hpaths.tail (apart_getD h.2)
            · rw [Entries.lookup?_alter_of_ne hstep] at hbranch
              exact h.2 branch hbranch

lemma named_getD (draft : Option Draft) :
    (draft.getD empty).named mark = (draft.map (named mark)).getD .empty := by
  cases draft <;> rfl

/-- **A message may be added before or after the steps are named.** -/
lemma named_add (message : String) {path : Path} {draft : Draft} (h : Apart mark path draft) :
    (draft.add message path).named mark = (draft.named mark).add message (path.render mark) := by
  induction path generalizing draft with
  | nil =>
      obtain ⟨messages, branches⟩ := draft
      rw [add, named, named, Path.render, List.map_nil, Node.add]
  | cons step rest ih =>
      obtain ⟨messages, branches⟩ := draft
      have hnext := ih (apart_getD h.2)
      rw [named_getD] at hnext
      have hbranches : Entries.alter (step.render mark)
            (fun child => Node.add message (Path.render mark rest) (child.getD .empty))
            (branches.map fun branch => (branch.1.render mark, branch.2.named mark)) =
          (Entries.alter step (fun branch => add message rest (branch.getD empty)) branches).map
            fun branch => (branch.1.render mark, branch.2.named mark) :=
        Entries.alter_map h.1 hnext.symm
      rw [add, named, named, namedBranches_eq, namedBranches_eq, ← hbranches]
      rfl

/-! ## What does not depend on names -/

mutual

lemma count_named (mark other : String) :
    ∀ draft : Draft, (draft.named mark).count = (draft.named other).count
  | ⟨_, branches⟩ => by
      rw [named, named, Node.count, Node.count, countChildren_namedBranches mark other branches]

lemma countChildren_namedBranches (mark other : String) :
    ∀ branches : List (Segment × Draft), Node.countChildren (namedBranches mark branches) =
      Node.countChildren (namedBranches other branches)
  | [] => rfl
  | (_, branch) :: rest => by
      rw [namedBranches, namedBranches, Node.countChildren, Node.countChildren,
        count_named mark other branch, countChildren_namedBranches mark other rest]

end

mutual

/-- The same messages come in the same order, whatever the places are called. -/
lemma messages_named (mark other : String) (place below : Option String) :
    ∀ draft : Draft, ((draft.named mark).toListUnder place).map (·.2) =
      ((draft.named other).toListUnder below).map (·.2)
  | ⟨messages, branches⟩ => by
      rw [named, named, Node.toListUnder, Node.toListUnder, List.map_append, List.map_append,
        messages_namedBranches mark other place below branches, List.map_map, List.map_map]
      rfl

lemma messages_namedBranches (mark other : String) (place below : Option String) :
    ∀ branches : List (Segment × Draft),
      (Node.listChildren place (namedBranches mark branches)).map (·.2) =
        (Node.listChildren below (namedBranches other branches)).map (·.2)
  | [] => rfl
  | (_, branch) :: rest => by
      rw [namedBranches, namedBranches, Node.listChildren, Node.listChildren, List.map_append,
        List.map_append, messages_namedBranches mark other place below rest]
      rw [messages_named mark other _ _ branch]

end

end Draft

/-! ## Reports -/

open Draft (named)

/-- **The report of a log is its draft with names** if the mark tells the paths of the log apart. -/
theorem top_addAll_eq_named {r : Report} {draft : Option Draft} {log : List (Path × String)}
    (htop : r.top = draft.map (named r.indexMark))
    (hdraft : ∀ entry ∈ log, (draft.getD .empty).Apart r.indexMark entry.1)
    (hlog : ∀ entry ∈ log, ∀ other ∈ log, Path.ToldApart r.indexMark entry.1 other.1) :
    (r.addAll log).top = (Draft.addAll draft log).map (named r.indexMark) := by
  induction log generalizing r draft with
  | nil => exact htop
  | cons entry rest ih =>
      have hfirst := hdraft entry List.mem_cons_self
      refine ih (r := r.add entry.1 entry.2) ?_ (fun other hother => ?_)
        fun other hother last hlast => ?_
      · rw [add, htop, ← Draft.named_getD, ← Draft.named_add _ hfirst]
        rfl
      · have hmem := List.mem_cons_of_mem entry hother
        exact Draft.apart_add _ (hlog other hmem entry List.mem_cons_self) (hdraft other hmem)
      · exact hlog other (List.mem_cons_of_mem _ hother) last (List.mem_cons_of_mem _ hlast)

/-- Reports of one draft list the same messages in the same order, and have as many nodes. -/
lemma messages_eq_of_named {r other : Report} {draft : Option Draft} {mark second : String}
    (h : r.top = draft.map (named mark)) (h' : other.top = draft.map (named second)) :
    r.toList.map (·.2) = other.toList.map (·.2) ∧ r.size = other.size := by
  rw [toList, toList, size, size, h, h']
  cases draft with
  | none => exact ⟨rfl, rfl⟩
  | some d => exact ⟨d.messages_named mark second none none, d.count_named mark second⟩

end Report

end DataShape
