import DataShape.Proofs.Report.Traversal

/-!
# The report below a place

Messages come in any order, and those of one place may be far apart in the log.  What stands below a
place depends on none that is elsewhere: it is what the messages at the place and below it write on
their own, in their order, and there is nothing at all if there is no such message.

* `Log.below` — the part of a log below a name, as seen from there.
* `Node.extend` — what a log makes of a node that need not be there yet.
* `Node.child?_extend` — **a branch is written by the part of the log below it.**
* `Report.top_addAll_eq_extend` — reports are written this way.
-/

namespace DataShape

namespace Report.Node

/-! ## Logs below a name -/

/-- The part of a log below a name, as seen from there. -/
def Log.below (name : String) (log : Log) : Log :=
  log.filterMap fun entry =>
    match entry.1 with
    | [] => none
    | first :: rest => if first = name then some (rest, entry.2) else none

lemma Log.below_append (name : String) (log more : Log) :
    Log.below name (log ++ more) = log.below name ++ more.below name := List.filterMap_append

lemma Log.below_under_self (name : String) (log : Log) : (log.under name).below name = log := by
  induction log with
  | nil => rfl
  | cons entry rest ih =>
      rw [Log.below] at ih
      rw [Log.under_cons, Log.below, List.filterMap_cons]
      simp only [if_true, ih]

lemma Log.below_under_of_ne {name other : String} (h : other ≠ name) (log : Log) :
    (log.under other).below name = [] := by
  induction log with
  | nil => rfl
  | cons entry rest ih =>
      rw [Log.below] at ih
      rw [Log.under_cons, Log.below, List.filterMap_cons]
      simp only [if_neg h, ih]

section Parts

variable {β : Type} {nameOf : β → String} {logOf : β → Log} {parts : List β}

/-- No part of a name, nothing below the name. -/
lemma Log.below_flatMap_of_not_mem {name : String} (h : ∀ part ∈ parts, nameOf part ≠ name) :
    Log.below name (parts.flatMap fun part => (logOf part).under (nameOf part)) = [] := by
  induction parts with
  | nil => rfl
  | cons part rest ih =>
      rw [List.forall_mem_cons] at h
      rw [List.flatMap_cons, Log.below_append, Log.below_under_of_ne h.1, ih h.2, List.append_nil]

/-- Parts with different names are told apart by them. -/
lemma Log.below_flatMap_of_mem (h : (parts.map nameOf).Nodup) {part : β} (hpart : part ∈ parts) :
    Log.below (nameOf part) (parts.flatMap fun part => (logOf part).under (nameOf part)) =
      logOf part := by
  induction parts with
  | nil => exact absurd hpart List.not_mem_nil
  | cons first rest ih =>
      rw [List.map_cons, List.nodup_cons] at h
      have hrest : ∀ other ∈ rest, nameOf other ≠ nameOf first := by
        intro other hother hsame
        exact h.1 (hsame ▸ List.mem_map_of_mem hother)
      rw [List.flatMap_cons, Log.below_append]
      rcases List.mem_cons.mp hpart with rfl | hmem
      · rw [Log.below_under_self, Log.below_flatMap_of_not_mem hrest, List.append_nil]
      · rw [Log.below_under_of_ne (hrest part hmem).symm, ih h.2 hmem, List.nil_append]

end Parts

/-! ## Writing to a node that need not be there yet -/

/-- What a log makes of a node; the first message makes the node if it is not there. -/
def extend (n : Option Node) (log : Log) : Option Node :=
  log.foldl (fun n entry => some ((n.getD empty).add entry.2 entry.1)) n

lemma extend_cons (n : Option Node) (entry : List String × String) (log : Log) :
    extend n (entry :: log) = extend (some ((n.getD empty).add entry.2 entry.1)) log := rfl

lemma extend_append (n : Option Node) (log more : Log) :
    extend n (log ++ more) = extend (extend n log) more := List.foldl_append

lemma extend_some (n : Node) (log : Log) : extend (some n) log = some (n.addAll log) := by
  induction log generalizing n with
  | nil => rfl
  | cons entry rest ih => rw [extend_cons, ih, Option.getD_some, addAll_cons]

/-- There is no node only as long as nothing was written. -/
lemma extend_none_eq_none_iff (log : Log) : extend none log = none ↔ log = [] := by
  cases log with
  | nil => exact iff_of_true rfl rfl
  | cons entry rest =>
      rw [extend_cons, extend_some]
      exact iff_of_false (Option.some_ne_none _) (List.cons_ne_nil _ _)

lemma child?_getD (n : Option Node) (name : String) :
    (n.getD empty).child? name = n.bind fun n => n.child? name := by
  cases n <;> rfl

/-- A message goes to one branch at most. -/
lemma child?_add (message : String) (names : List String) (n : Node) (name : String) :
    (n.add message names).child? name =
      extend (n.child? name) (Log.below name [(names, message)]) := by
  obtain ⟨messages, children⟩ := n
  cases names with
  | nil => rfl
  | cons first rest =>
      rw [add, child?, Node.children, Log.below, List.filterMap_cons, List.filterMap_nil]
      by_cases h : first = name
      · subst h
        rw [Entries.lookup?_alter_self]
        simp only [if_true]
        rfl
      · rw [Entries.lookup?_alter_of_ne (Ne.symm h)]
        simp only [if_neg h]
        rfl

/-- **A branch is written by the part of the log below it.** -/
lemma child?_extend (n : Option Node) (log : Log) (name : String) :
    ((extend n log).bind fun n => n.child? name) =
      extend (n.bind fun n => n.child? name) (log.below name) := by
  induction log generalizing n with
  | nil => rfl
  | cons entry rest ih =>
      have hsplit : Log.below name (entry :: rest) =
          Log.below name [entry] ++ Log.below name rest := Log.below_append name [entry] rest
      rw [extend_cons, ih, Option.bind_some, child?_add, child?_getD, hsplit, extend_append]

/-- The nodes below a branch. -/
lemma get?_extend_cons (log : Log) (name : String) (rest : List String) :
    (extend none log).bind (get? (name :: rest)) =
      (extend none (log.below name)).bind (get? rest) := by
  have h := child?_extend none log name
  rw [Option.bind_none] at h
  rw [← h, Option.bind_assoc]
  rfl

end Report.Node

/-! ## Reports -/

namespace Report

/-- Reports are written this way. -/
lemma top_addAll_eq_extend (r : Report) (log : List (Path × String)) :
    (r.addAll log).top =
      Node.extend r.top (log.map fun entry => (entry.1.render r.indexMark, entry.2)) := by
  induction log generalizing r with
  | nil => rfl
  | cons entry rest ih =>
      rw [addAll_cons, ih, indexMark_add, List.map_cons, Node.extend_cons]
      rfl

end Report

end DataShape
