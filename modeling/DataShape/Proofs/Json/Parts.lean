import Mathlib.Data.List.Infix
import DataShape.Json.Printer
import DataShape.Proofs.Entries

/-!
# Parts of JSON values

A part of a JSON value can be looked up by the names of the members that lead to it.  Whatever lies
inside a value, its text lies inside the text of the value, on one line and indented.

* `Json.get?` — the part that a list of names leads to.
* `Json.Within` — one value lies inside another.
* `Json.Within.compactChars_infix`, `Json.Within.exists_prettyChars_infix` — so does its text.
-/

namespace DataShape

namespace Json

/-! ## Looking up members -/

/-- The member of an object with a name. -/
def member? (name : String) : Json → Option Json
  | .object members => Entries.lookup? name members
  | _ => none

/-- The part that a list of names leads to, member by member. -/
def get? : List String → Json → Option Json
  | [], j => some j
  | name :: rest, j => (j.member? name).bind (get? rest)

lemma mergedItems_eq (items : List Json) : mergedItems items = items.map merged := by
  induction items with
  | nil => rfl
  | cons item rest ih => rw [mergedItems, ih, List.map_cons]

lemma mergedMembers_eq (members : List (String × Json)) :
    mergedMembers members = members.map fun member => (member.1, member.2.merged) := by
  induction members with
  | nil => rfl
  | cons member rest ih =>
      obtain ⟨name, value⟩ := member
      rw [mergedMembers, ih, List.map_cons]

lemma merged_array_text (texts : List String) :
    merged (.array (texts.map .text)) = .array (texts.map .text) := by
  rw [merged, mergedItems_eq, List.map_map]
  congr 1

/-! ## Values inside others -/

/-- The first value lies inside the second, or is the second. -/
inductive Within : Json → Json → Prop
  | refl (j : Json) : Within j j
  | item {items : List Json} {item part : Json} :
      item ∈ items → Within part item → Within part (.array items)
  | member {members : List (String × Json)} {name : String} {value part : Json} :
      (name, value) ∈ members → Within part value → Within part (.object members)

lemma within_of_member? {name : String} {j value part : Json} (h : j.member? name = some value)
    (hpart : Within part value) : Within part j := by
  cases j with
  | object members => exact .member (Entries.mem_of_lookup? h) hpart
  | _ => cases h

lemma within_of_get? {names : List String} {j value part : Json} (h : j.get? names = some value)
    (hpart : Within part value) : Within part j := by
  induction names generalizing j with
  | nil => exact Option.some.inj h ▸ hpart
  | cons name rest ih =>
      obtain ⟨first, hfirst, hrest⟩ := Option.bind_eq_some_iff.mp h
      exact within_of_member? hfirst (ih hrest)

/-! ## On one line -/

/-- Where parts are printed one behind the other, each of them is printed. -/
lemma infix_of_mem_cons {α : Type} (print : α → List Char) {first part : α} {rest : List α}
    {text : List Char} (h : part ∈ first :: rest) (hrest : part ∈ rest → print part <:+: text) :
    print part <:+: print first ++ text := by
  rcases List.mem_cons.mp h with rfl | h
  · exact List.infix_append_left
  · exact List.infix_append_of_infix_right (hrest h)

lemma compactChars_infix_items {items : List Json} {item : Json} (h : item ∈ items) :
    compactChars item <:+: compactItems items := by
  induction items with
  | nil => exact absurd h List.not_mem_nil
  | cons first rest ih =>
      rw [compactItems]
      exact List.infix_cons (infix_of_mem_cons _ h ih)

lemma compactChars_infix_members {members : List (String × Json)} {member : String × Json}
    (h : member ∈ members) : compactChars member.2 <:+: compactMembers members := by
  induction members with
  | nil => exact absurd h List.not_mem_nil
  | cons first rest ih =>
      obtain ⟨name, value⟩ := first
      rw [compactMembers]
      refine List.infix_cons (List.infix_append_of_infix_right (List.infix_cons ?_))
      exact infix_of_mem_cons (fun member => compactChars member.2) h ih

-- Behind the bracket the first item is printed like the others, but without a comma.
lemma compactChars_infix_array {items : List Json} {item : Json} (h : item ∈ items) :
    compactChars item <:+: compactChars (.array items) := by
  cases items with
  | nil => exact absurd h List.not_mem_nil
  | cons first rest =>
      rw [compactChars]
      refine List.infix_cons (infix_of_mem_cons _ h fun hrest => ?_)
      exact List.infix_append_of_infix_left (compactChars_infix_items hrest)

lemma compactChars_infix_object {members : List (String × Json)} {member : String × Json}
    (h : member ∈ members) : compactChars member.2 <:+: compactChars (.object members) := by
  cases members with
  | nil => exact absurd h List.not_mem_nil
  | cons first rest =>
      obtain ⟨name, value⟩ := first
      rw [compactChars]
      refine List.infix_cons (List.infix_append_of_infix_right (List.infix_cons ?_))
      refine infix_of_mem_cons (fun member => compactChars member.2) h fun hrest => ?_
      exact List.infix_append_of_infix_left (compactChars_infix_members hrest)

/-- **What lies inside a value is printed inside its text**, on one line. -/
theorem Within.compactChars_infix {part j : Json} (h : Within part j) :
    compactChars part <:+: compactChars j := by
  induction h with
  | refl j => exact List.infix_rfl
  | item hitem _ ih => exact ih.trans (compactChars_infix_array hitem)
  | member hmember _ ih => exact ih.trans (compactChars_infix_object hmember)

/-! ## Indented -/

lemma prettyChars_infix_items (level : Nat) {items : List Json} {item : Json} (h : item ∈ items) :
    prettyChars (level + 1) item <:+: prettyItems level items := by
  induction items with
  | nil => exact absurd h List.not_mem_nil
  | cons first rest ih =>
      rw [prettyItems]
      exact List.infix_cons (List.infix_append_of_infix_right (infix_of_mem_cons _ h ih))

lemma prettyChars_infix_members (level : Nat) {members : List (String × Json)}
    {member : String × Json} (h : member ∈ members) :
    prettyChars (level + 1) member.2 <:+: prettyMembers level members := by
  induction members with
  | nil => exact absurd h List.not_mem_nil
  | cons first rest ih =>
      obtain ⟨name, value⟩ := first
      rw [prettyMembers]
      refine List.infix_cons (List.infix_append_of_infix_right (List.infix_append_of_infix_right
        (List.infix_cons (List.infix_cons ?_))))
      exact infix_of_mem_cons (fun member => prettyChars (level + 1) member.2) h ih

lemma prettyChars_infix_array (level : Nat) {items : List Json} {item : Json} (h : item ∈ items) :
    prettyChars (level + 1) item <:+: prettyChars level (.array items) := by
  cases items with
  | nil => exact absurd h List.not_mem_nil
  | cons first rest =>
      rw [prettyChars]
      refine List.infix_cons (List.infix_append_of_infix_right
        (infix_of_mem_cons _ h fun hrest => ?_))
      exact List.infix_append_of_infix_left (prettyChars_infix_items level hrest)

lemma prettyChars_infix_object (level : Nat) {members : List (String × Json)}
    {member : String × Json} (h : member ∈ members) :
    prettyChars (level + 1) member.2 <:+: prettyChars level (.object members) := by
  cases members with
  | nil => exact absurd h List.not_mem_nil
  | cons first rest =>
      obtain ⟨name, value⟩ := first
      rw [prettyChars]
      refine List.infix_cons (List.infix_append_of_infix_right (List.infix_append_of_infix_right
        (List.infix_cons (List.infix_cons ?_))))
      refine infix_of_mem_cons (fun member => prettyChars (level + 1) member.2) h
        fun hrest => ?_
      exact List.infix_append_of_infix_left (prettyChars_infix_members level hrest)

/-- **What lies inside a value is printed inside its indented text**, some levels further in. -/
theorem Within.exists_prettyChars_infix {part j : Json} (h : Within part j) (level : Nat) :
    ∃ inner, prettyChars inner part <:+: prettyChars level j := by
  induction h generalizing level with
  | refl j => exact ⟨level, List.infix_rfl⟩
  | item hitem _ ih =>
      obtain ⟨inner, hinner⟩ := ih (level + 1)
      exact ⟨inner, hinner.trans (prettyChars_infix_array level hitem)⟩
  | member hmember _ ih =>
      obtain ⟨inner, hinner⟩ := ih (level + 1)
      exact ⟨inner, hinner.trans (prettyChars_infix_object level hmember)⟩

/-- A text inside a value is printed as it is, between quotes and with its escapes. -/
lemma textChars_infix {s : String} {j : Json} (h : Within (.text s) j) :
    textChars s <:+: j.compact.toList ∧ textChars s <:+: j.pretty.toList := by
  rw [compact, pretty, String.toList_ofList, String.toList_ofList]
  obtain ⟨inner, hinner⟩ := h.exists_prettyChars_infix 0
  refine ⟨?_, ?_⟩
  · simpa only [compactChars] using h.compactChars_infix
  · simpa only [prettyChars] using hinner

end Json

end DataShape
