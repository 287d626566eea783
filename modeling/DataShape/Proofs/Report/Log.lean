import Mathlib.Data.List.Perm.Basic
import Mathlib.Tactic.Common
import DataShape.Report.Basic

/-!
# A report as a log

Adding messages one after the other writes a log.  These lemmas say what the report shows of it
later: at a path, exactly the messages that were added at a path of the same names, in their order;
and among all messages, the earlier ones in the order they had, and the added ones besides.

* `Report.addAll` — adds the messages of a log.
* `Report.messagesAt_addAll` — the messages of a path.
* `Report.toList_sublist_addAll` — nothing is lost or moved.
* `Report.toList_addAll_perm` — nothing comes in but the log.
* `Report.isEmpty_addAll` — a report is empty only as long as nothing was added.
-/

namespace DataShape

/-- The dotted text of a path whose positions are marked as a report likes them. -/
def Path.placeText (mark : String) (p : Path) : String :=
  if p.isEmpty then rootText else joinDotted (p.render mark)

lemma Path.render_append (mark : String) (p q : Path) :
    (p ++ q).render mark = p.render mark ++ q.render mark := by
  simp [Path.render]

/-- The names of a path of keys are the keys. -/
lemma Path.render_keys (mark : String) (names : List String) :
    Path.render mark (names.map .key) = names := by
  simp [Path.render, Function.comp_def, Segment.render]

namespace Report

namespace Node

/-! ## Messages of a place -/

/-- The messages of the place that a list of names leads to. -/
def messagesAt (names : List String) (n : Node) : List String :=
  match n.get? names with
  | some node => node.messages
  | none => []

@[simp] lemma messagesAt_nil (n : Node) : n.messagesAt [] = n.messages := rfl

lemma messagesAt_cons (name : String) (rest : List String) (messages : List String)
    (children : List (String × Node)) :
    messagesAt (name :: rest) ⟨messages, children⟩ =
      ((Entries.lookup? name children).getD empty).messagesAt rest := by
  rw [messagesAt, get?, child?, Node.children]
  cases Entries.lookup? name children with
  | some child => rfl
  | none => cases rest <;> simp [messagesAt, get?, empty, child?, Node.children, Node.messages,
      Entries.lookup?]

@[simp] lemma messagesAt_empty (names : List String) : empty.messagesAt names = [] := by
  cases names <;> rfl

/-- A message goes to the end of those of its place, and to no other place. -/
lemma messagesAt_add (message : String) (names other : List String) (n : Node) :
    (n.add message names).messagesAt other =
      n.messagesAt other ++ if names = other then [message] else [] := by
  induction names generalizing other n with
  | nil =>
      obtain ⟨messages, children⟩ := n
      cases other with
      | nil => simp [add, Node.messages]
      | cons name rest => simp [add, messagesAt_cons]
  | cons name rest ih =>
      obtain ⟨messages, children⟩ := n
      cases other with
      | nil => simp [add, Node.messages]
      | cons first more =>
          rw [add, messagesAt_cons, messagesAt_cons]
          by_cases hname : name = first
          · rw [← hname, Entries.lookup?_alter_self, Option.getD_some, ih]
            simp
          · rw [Entries.lookup?_alter_of_ne (Ne.symm hname)]
            simp [hname]

/-! ## All messages -/

/-- The text of the place that a list of names leads to. -/
def placeAt (place : Option String) (names : List String) : Option String :=
  names.foldl (fun place name => some (placeBelow place name)) place

lemma placeAt_some (text : String) (names : List String) :
    placeAt (some text) names = some (Path.joinDotted (text :: names)) := by
  induction names generalizing text with
  | nil => rfl
  | cons name rest ih => exact ih (text ++ "." ++ name)

/-- The place of a path that starts at the topmost node has the text of the path. -/
lemma placeAt_render (mark : String) (path : Path) :
    (placeAt none (path.render mark)).getD Path.rootText = path.placeText mark := by
  cases path with
  | nil => rfl
  | cons step rest => exact congrArg (·.getD Path.rootText) (placeAt_some _ _)

lemma toListUnder_mk (place : Option String) (messages : List String)
    (children : List (String × Node)) :
    toListUnder place ⟨messages, children⟩ =
      messages.map (fun message => (place.getD Path.rootText, message)) ++
        listChildren place children := by
  rw [toListUnder]

/-- What a change does to one branch it does to the list of all messages. -/
lemma listChildren_alter_sublist (place : Option String) (name : String)
    (change : Option Node → Node) (children : List (String × Node))
    (h : ∀ n : Node, ∀ below, (toListUnder below n).Sublist (toListUnder below (change (some n)))) :
    (listChildren place children).Sublist
      (listChildren place (Entries.alter name change children)) := by
  induction children with
  | nil => simp [listChildren]
  | cons entry rest ih =>
      obtain ⟨first, child⟩ := entry
      rw [Entries.alter]
      split_ifs
      · exact (h child _).append (List.Sublist.refl _)
      · exact (List.Sublist.refl _).append ih

/-- Adding a message loses none and moves none. -/
lemma toListUnder_sublist_add (message : String) (names : List String) (place : Option String)
    (n : Node) : (toListUnder place n).Sublist (toListUnder place (n.add message names)) := by
  induction names generalizing place n with
  | nil =>
      obtain ⟨messages, children⟩ := n
      simp [add, toListUnder]
  | cons name rest ih =>
      obtain ⟨messages, children⟩ := n
      rw [add, toListUnder_mk, toListUnder_mk]
      exact (List.Sublist.refl _).append
        (listChildren_alter_sublist place name _ children fun n below => ih below n)

lemma listChildren_alter_perm (place : Option String) (name : String)
    (change : Option Node → Node) (children : List (String × Node)) (entry : String × String)
    (h : ∀ child : Option Node,
      (toListUnder (some (placeBelow place name)) (change child)).Perm
        (entry :: toListUnder (some (placeBelow place name)) (child.getD empty))) :
    (listChildren place (Entries.alter name change children)).Perm
      (entry :: listChildren place children) := by
  induction children with
  | nil =>
      have hnew := h none
      simpa [Entries.alter, listChildren, toListUnder, empty] using hnew
  | cons branch rest ih =>
      obtain ⟨first, child⟩ := branch
      rw [Entries.alter]
      split_ifs with hfirst
      · subst hfirst
        exact (h (some child)).append_right _
      · rw [listChildren, listChildren]
        exact (ih.append_left _).trans List.perm_middle

/-- Adding a message brings in that message alone. -/
lemma toListUnder_add_perm (message : String) (names : List String) (place : Option String)
    (n : Node) :
    (toListUnder place (n.add message names)).Perm
      (((placeAt place names).getD Path.rootText, message) :: toListUnder place n) := by
  induction names generalizing place n with
  | nil =>
      obtain ⟨messages, children⟩ := n
      rw [add, toListUnder_mk, toListUnder_mk, List.map_append, List.append_assoc]
      exact List.perm_middle
  | cons name rest ih =>
      obtain ⟨messages, children⟩ := n
      rw [add, toListUnder_mk, toListUnder_mk]
      refine (List.Perm.append_left _ ?_).trans List.perm_middle
      exact listChildren_alter_perm place name _ children _ fun child => ih _ _

end Node

/-! ## Logs -/

/-- Adds the messages of a log, each at its path. -/
def addAll (r : Report) (log : List (Path × String)) : Report :=
  log.foldl (fun r entry => r.add entry.1 entry.2) r

@[simp] lemma addAll_nil (r : Report) : r.addAll [] = r := rfl

@[simp] lemma addAll_cons (r : Report) (entry : Path × String) (log : List (Path × String)) :
    r.addAll (entry :: log) = (r.add entry.1 entry.2).addAll log := rfl

lemma addAll_append (r : Report) (log more : List (Path × String)) :
    r.addAll (log ++ more) = (r.addAll log).addAll more := by
  rw [addAll, List.foldl_append, ← addAll, ← addAll]

@[simp] lemma rootKey_addAll (r : Report) (log : List (Path × String)) :
    (r.addAll log).rootKey = r.rootKey := by
  induction log generalizing r with
  | nil => rfl
  | cons entry rest ih => exact ih (r.add entry.1 entry.2)

@[simp] lemma indexMark_add (r : Report) (path : Path) (message : String) :
    (r.add path message).indexMark = r.indexMark := rfl

@[simp] lemma indexMark_addAll (r : Report) (log : List (Path × String)) :
    (r.addAll log).indexMark = r.indexMark := by
  induction log generalizing r with
  | nil => rfl
  | cons entry rest ih => rw [addAll_cons, ih, indexMark_add]

/-! ## Messages of a path -/

lemma messagesAt_eq (r : Report) (path : Path) :
    r.messagesAt path = (r.top.getD .empty).messagesAt (path.render r.indexMark) := by
  rw [messagesAt, get?]
  cases r.top with
  | some node => rfl
  | none => simp

lemma messagesAt_add (r : Report) (path other : Path) (message : String) :
    (r.add path message).messagesAt other =
      r.messagesAt other ++
        if path.render r.indexMark = other.render r.indexMark then [message] else [] := by
  rw [messagesAt_eq, messagesAt_eq, indexMark_add, ← Node.messagesAt_add]
  rfl

/-- **The messages of a path** are those that were added at a path of the same names, in their
order, after those that were there before. -/
theorem messagesAt_addAll (r : Report) (log : List (Path × String)) (path : Path) :
    (r.addAll log).messagesAt path =
      r.messagesAt path ++ (log.filter fun entry =>
        entry.1.render r.indexMark = path.render r.indexMark).map (·.2) := by
  induction log generalizing r with
  | nil => simp
  | cons entry rest ih =>
      rw [addAll_cons, ih, messagesAt_add, indexMark_add, List.filter_cons]
      split_ifs <;> simp_all

/-! ## All messages -/

lemma toList_eq (r : Report) : r.toList = (r.top.getD .empty).toListUnder none := by
  rw [toList]
  cases r.top <;> rfl

/-- **Nothing is lost or moved** when a message is added. -/
lemma toList_sublist_add (r : Report) (path : Path) (message : String) :
    r.toList.Sublist (r.add path message).toList := by
  rw [toList_eq, toList_eq]
  exact Node.toListUnder_sublist_add message _ none _

theorem toList_sublist_addAll (r : Report) (log : List (Path × String)) :
    r.toList.Sublist (r.addAll log).toList := by
  induction log generalizing r with
  | nil => exact List.Sublist.refl _
  | cons entry rest ih => exact (r.toList_sublist_add entry.1 entry.2).trans (ih _)

lemma toList_add_perm (r : Report) (path : Path) (message : String) :
    (r.add path message).toList.Perm ((path.placeText r.indexMark, message) :: r.toList) := by
  rw [toList_eq, toList_eq, ← Node.placeAt_render]
  exact Node.toListUnder_add_perm message _ none _

/-- **Nothing comes in but the log.** -/
theorem toList_addAll_perm (r : Report) (log : List (Path × String)) :
    (r.addAll log).toList.Perm
      (r.toList ++ log.map fun entry => (entry.1.placeText r.indexMark, entry.2)) := by
  induction log generalizing r with
  | nil => simp
  | cons entry rest ih =>
      refine (ih _).trans ?_
      rw [List.map_cons]
      exact ((r.toList_add_perm entry.1 entry.2).append_right _).trans List.perm_middle.symm

/-! ## Empty reports -/

lemma isEmpty_add (r : Report) (path : Path) (message : String) :
    (r.add path message).isEmpty = false := rfl

lemma isEmpty_addAll (r : Report) (log : List (Path × String)) :
    (r.addAll log).isEmpty = (r.isEmpty && log.isEmpty) := by
  induction log generalizing r with
  | nil => simp
  | cons entry rest ih => simp [ih, isEmpty_add]

lemma size_eq_zero_iff (r : Report) : r.size = 0 ↔ r.isEmpty = true := by
  rw [size, isEmpty]
  cases r.top with
  | none => simp
  | some node =>
      obtain ⟨messages, children⟩ := node
      simp [Node.count]

/-- A report that was written from nothing lists no message only if it is empty. -/
lemma toList_addAll_new_eq_nil_iff (settings : Settings) (log : List (Path × String)) :
    ((new settings).addAll log).toList = [] ↔ ((new settings).addAll log).isEmpty = true := by
  rw [isEmpty_addAll, ← List.length_eq_zero_iff, (toList_addAll_perm _ log).length_eq]
  simp [new, isEmpty, toList]

/-- Whatever is rendered has a text. -/
lemma render_ne_empty (r : Report) : r.pretty ≠ "" ∧ r.compact ≠ "" := by
  have hobject : ∃ members, r.toJson = .object members := by
    rw [toJson, raw]
    cases r.top <;> exact ⟨_, by rw [Json.merged]⟩
  obtain ⟨members, hmembers⟩ := hobject
  rw [pretty, compact, hmembers]
  cases members <;>
    simp [Json.pretty, Json.compact, Json.prettyChars, Json.compactChars, ← String.toList_inj]

end Report

end DataShape
