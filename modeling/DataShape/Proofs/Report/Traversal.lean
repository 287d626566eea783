import DataShape.Proofs.Entries
import DataShape.Proofs.Report.Log

/-!
# The order of a report

A report lists its messages place by place, a place before those below it, and the places below in
the order in which they were first needed.  A log has that order already if it is *orderly*: it has
the messages of the place itself first, and then those below it branch by branch, such that no
branch is taken up again once it was left.  Nothing is moved when an orderly log is added to an
empty report.

* `Node.Orderly` — logs in the order of a report.
* `Node.toListUnder_addAll` — **an orderly log comes out as it was.**
* `Report.toList_addAll_new` — the same for whole reports.
-/

namespace DataShape

namespace Report.Node

/-! ## Orderly logs -/

/-- Messages by the names that lead to their places. -/
abbrev Log := List (List String × String)

/-- A log as seen from one name further out. -/
def Log.under (name : String) (log : Log) : Log := log.map fun entry => (name :: entry.1, entry.2)

lemma Log.under_nil (name : String) : Log.under name [] = [] := rfl

lemma Log.under_cons (name : String) (entry : List String × String) (log : Log) :
    Log.under name (entry :: log) = (name :: entry.1, entry.2) :: log.under name := rfl

/-- A log in the order of a report: first the messages of the place itself, then those below it,
branch by branch. -/
inductive Orderly : Log → Prop
  | intro (messages : List String) (branches : List (String × Log)) :
      (Entries.keys branches).Nodup → (∀ branch ∈ branches, Orderly branch.2) →
      Orderly (messages.map (fun message => ([], message)) ++
        branches.flatMap fun branch => branch.2.under branch.1)

/-- Adds the messages of a log, each at its place. -/
def addAll (n : Node) (log : Log) : Node := log.foldl (fun n entry => n.add entry.2 entry.1) n

@[simp] lemma addAll_nil (n : Node) : n.addAll [] = n := rfl

lemma addAll_cons (n : Node) (entry : List String × String) (log : Log) :
    n.addAll (entry :: log) = (n.add entry.2 entry.1).addAll log := rfl

lemma addAll_append (n : Node) (log more : Log) :
    n.addAll (log ++ more) = (n.addAll log).addAll more := by
  rw [addAll, List.foldl_append, ← addAll, ← addAll]

/-! ## Adding an orderly log -/

lemma addAll_here (messages more : List String) (children : List (String × Node)) :
    addAll ⟨messages, children⟩ (more.map fun message => ([], message)) =
      ⟨messages ++ more, children⟩ := by
  induction more generalizing messages with
  | nil => simp
  | cons message rest ih => rw [List.map_cons, addAll_cons, add, ih, List.append_assoc]; rfl

/-- The branch that was added last takes the messages that go below its name. -/
lemma addAll_last (messages : List String) {children : List (String × Node)} {name : String}
    (h : name ∉ Entries.keys children) (child : Node) (log : Log) :
    addAll ⟨messages, children ++ [(name, child)]⟩ (log.under name) =
      ⟨messages, children ++ [(name, child.addAll log)]⟩ := by
  induction log generalizing child with
  | nil => rfl
  | cons entry rest ih =>
      have hadd : add entry.2 (name :: entry.1) ⟨messages, children ++ [(name, child)]⟩ =
          ⟨messages, children ++ [(name, child.add entry.2 entry.1)]⟩ := by
        rw [add, Entries.alter_append h]
        simp [Entries.alter]
      rw [Log.under_cons, addAll_cons, hadd, ih, addAll_cons]

/-- Messages below a name that has no branch yet make one branch. -/
lemma addAll_new (messages : List String) {children : List (String × Node)} {name : String}
    (h : name ∉ Entries.keys children) (log : Log) (hlog : log ≠ []) :
    addAll ⟨messages, children⟩ (log.under name) =
      ⟨messages, children ++ [(name, empty.addAll log)]⟩ := by
  cases log with
  | nil => exact absurd rfl hlog
  | cons entry rest =>
      have hadd : add entry.2 (name :: entry.1) ⟨messages, children⟩ =
          ⟨messages, children ++ [(name, empty.add entry.2 entry.1)]⟩ := by
        have halter := Entries.alter_append h
          (fun child => add entry.2 entry.1 (child.getD empty)) []
        rw [List.append_nil] at halter
        rw [add, halter]
        rfl
      rw [Log.under_cons, addAll_cons, hadd, addAll_last messages h, addAll_cons]

lemma listChildren_append (place : Option String) (children more : List (String × Node)) :
    listChildren place (children ++ more) =
      listChildren place children ++ listChildren place more := by
  induction children with
  | nil => rfl
  | cons branch rest ih =>
      obtain ⟨name, child⟩ := branch
      rw [List.cons_append, listChildren, listChildren, ih, List.append_assoc]

/-- Branches whose names are new are listed behind the others, each with its own messages. -/
lemma toListUnder_addAll_branches (place : Option String) (messages : List String)
    {children : List (String × Node)} {branches : List (String × Log)}
    (hnames : (Entries.keys branches).Nodup)
    (hnew : ∀ name ∈ Entries.keys branches, name ∉ Entries.keys children) :
    toListUnder place
        (addAll ⟨messages, children⟩ (branches.flatMap fun branch => branch.2.under branch.1)) =
      toListUnder place ⟨messages, children⟩ ++ branches.flatMap fun branch =>
        toListUnder (some (placeBelow place branch.1)) (empty.addAll branch.2) := by
  induction branches generalizing children with
  | nil => simp
  | cons branch rest ih =>
      obtain ⟨name, log⟩ := branch
      rw [Entries.keys, List.map_cons, List.nodup_cons] at hnames
      have hname : name ∉ Entries.keys children := hnew name List.mem_cons_self
      have hrest : ∀ other ∈ Entries.keys rest, other ∉ Entries.keys children :=
        fun other hother => hnew other (List.mem_cons_of_mem name hother)
      rw [List.flatMap_cons, List.flatMap_cons, addAll_append]
      by_cases hlog : log = []
      -- A branch without messages makes no node, and is not listed either.
      · subst hlog
        rw [Log.under_nil, addAll_nil, addAll_nil, ih hnames.2 hrest, empty, toListUnder_mk]
        rfl
      · have hlonger : ∀ other ∈ Entries.keys rest,
            other ∉ Entries.keys (children ++ [(name, empty.addAll log)]) := by
          intro other hother
          rw [Entries.keys, List.map_append, List.mem_append, not_or]
          refine ⟨hrest other hother, fun hsame => ?_⟩
          rw [List.map_singleton, List.mem_singleton] at hsame
          exact hnames.1 (hsame ▸ hother)
        rw [addAll_new messages hname log hlog, ih hnames.2 hlonger, toListUnder_mk,
          toListUnder_mk, listChildren_append]
        simp [listChildren]

/-- **An orderly log comes out as it was** when it is added to an empty node. -/
theorem toListUnder_addAll {log : Log} (h : Orderly log) (place : Option String) :
    toListUnder place (empty.addAll log) =
      log.map fun entry => ((placeAt place entry.1).getD Path.rootText, entry.2) := by
  induction h generalizing place with
  | intro messages branches hnames _ ih =>
      have hbranches : ∀ branch ∈ branches,
          toListUnder (some (placeBelow place branch.1)) (empty.addAll branch.2) =
            (branch.2.under branch.1).map fun entry =>
              ((placeAt place entry.1).getD Path.rootText, entry.2) := by
        intro branch hbranch
        rw [ih branch hbranch, Log.under, List.map_map]
        rfl
      rw [addAll_append, empty, addAll_here, List.nil_append,
        toListUnder_addAll_branches place messages hnames fun _ _ => List.not_mem_nil,
        toListUnder_mk, listChildren, List.append_nil, List.map_append, List.map_flatMap,
        List.map_map, List.flatMap_congr hbranches]
      rfl

end Report.Node

namespace Report

lemma top_addAll (r : Report) (log : List (Path × String)) :
    (r.addAll log).top.getD .empty =
      (r.top.getD .empty).addAll (log.map fun entry => (entry.1.render r.indexMark, entry.2)) := by
  induction log generalizing r with
  | nil => rfl
  | cons entry rest ih =>
      rw [addAll_cons, ih, indexMark_add, List.map_cons, Node.addAll_cons]
      rfl

/-- **An orderly log comes out as it was** when it is added to a report without messages. -/
theorem toList_addAll_new (settings : Settings) (log : List (Path × String))
    (h : Node.Orderly (log.map fun entry => (entry.1.render settings.indexMark, entry.2))) :
    ((new settings).addAll log).toList =
      log.map fun entry => (entry.1.placeText settings.indexMark, entry.2) := by
  have htop : (new settings).top.getD .empty = .empty := rfl
  have hmark : (new settings).indexMark = settings.indexMark := rfl
  rw [toList_eq, top_addAll, htop, hmark, Node.toListUnder_addAll h none, List.map_map]
  refine List.map_congr_left fun entry _ => ?_
  rw [Function.comp_apply, Node.placeAt_render]

end Report

end DataShape
