import Mathlib.Algebra.Order.BigOperators.Group.List
import Mathlib.Algebra.Order.Ring.Nat
import DataShape.Proofs.Json.Parts

/-!
# Repeated members

Of a repeated member an object keeps the last value, in the first place.  Nothing happens to a value
in which no object repeats a member.  In every other one something is dropped, and then the text on
one line gets shorter: a member that is dropped takes its name, its value and two marks along.

* `Json.Distinct` — no object inside a value repeats a member.
* `Json.merged_eq_self` — such a value stays as it is.
* `Json.length_compactChars_merged` — merging never makes the text longer, and mostly shorter.
* `Json.compact_merged_eq_iff` — **the text stays the same exactly if no member is repeated.**
-/

namespace DataShape

/-! ## Tables that lose entries -/

namespace Entries

variable {κ α : Type} [DecidableEq κ]

lemma ofList_subperm (pairs : List (κ × α)) : (ofList pairs).Subperm pairs := by
  have hnodup : (ofList pairs).Nodup := List.Nodup.of_map _ (nodup_keys_ofList pairs)
  exact hnodup.subperm fun _ => mem_ofList

/-- What is written from left to right weighs no more than all that is written. -/
lemma sum_ofList_le (weight : κ × α → ℕ) (pairs : List (κ × α)) :
    ((ofList pairs).map weight).sum ≤ (pairs.map weight).sum := by
  obtain ⟨kept, hperm, hsublist⟩ := ofList_subperm pairs
  rw [← (hperm.map weight).sum_eq]
  exact (hsublist.map weight).sum_le_sum fun _ _ => Nat.zero_le _

/-- What weighs as much as all that was written has lost nothing, if everything weighs something. -/
lemma nodup_of_sum_ofList (weight : κ × α → ℕ) (hweight : ∀ pair, 0 < weight pair)
    {pairs : List (κ × α)} (h : (pairs.map weight).sum ≤ ((ofList pairs).map weight).sum) :
    (keys pairs).Nodup := by
  -- Each entry weighs one for itself, so the lengths compare like the weights.
  have hsplit : ∀ entries : List (κ × α), (entries.map weight).sum =
      (entries.map fun pair => weight pair - 1).sum + entries.length := by
    intro entries
    induction entries with
    | nil => rfl
    | cons pair rest ih =>
        have hpair := hweight pair
        simp only [List.map_cons, List.sum_cons, List.length_cons, ih]
        omega
  have hrest := sum_ofList_le (fun pair => weight pair - 1) pairs
  have hlength := (ofList_subperm pairs).length_le
  rw [hsplit, hsplit] at h
  exact nodup_of_length_ofList (by omega)

lemma ofList_eq_nil_iff (pairs : List (κ × α)) : ofList pairs = [] ↔ pairs = [] := by
  constructor
  · intro h
    rcases List.eq_nil_or_concat pairs with rfl | ⟨before, pair, rfl⟩
    · rfl
    · rw [List.concat_eq_append, ofList, List.foldl_append, List.foldl_cons, List.foldl_nil] at h
      have hfound := lookup?_alter_self pair.1 (fun _ => pair.2) (ofList before)
      rw [insert, ← ofList] at h
      rw [h] at hfound
      cases hfound
  · rintro rfl
    rfl

end Entries

namespace Json

/-- Induction over a value: an array has the statement if all its items have it, an object if the
values of all its members have it. -/
@[elab_as_elim, induction_eliminator]
theorem byParts {motive : Json → Prop}
    (null : motive .null)
    (boolean : ∀ b, motive (.boolean b))
    (number : ∀ n, motive (.number n))
    (text : ∀ s, motive (.text s))
    (array : ∀ items, (∀ item ∈ items, motive item) → motive (.array items))
    (object : ∀ members, (∀ member ∈ members, motive member.2) → motive (.object members)) :
    ∀ j, motive j
  | .null => null
  | .boolean b => boolean b
  | .number n => number n
  | .text s => text s
  | .array items => array items fun item _ =>
      byParts null boolean number text array object item
  | .object members => object members fun member _ =>
      byParts null boolean number text array object member.2
  termination_by j => sizeOf j
  decreasing_by
    · rename_i hitem
      have := List.sizeOf_lt_of_mem hitem
      simp only [Json.array.sizeOf_spec]
      omega
    · rename_i hmember
      have := List.sizeOf_lt_of_mem hmember
      obtain ⟨name, part⟩ := member
      simp only [Json.object.sizeOf_spec, Prod.mk.sizeOf_spec] at this ⊢
      omega

/-! ## Values without repeated members -/

/-- No object inside the value repeats a member. -/
def Distinct (j : Json) : Prop :=
  ∀ members, Within (.object members) j → (Entries.keys members).Nodup

lemma distinct_array_iff (items : List Json) :
    (array items).Distinct ↔ ∀ item ∈ items, item.Distinct := by
  constructor
  · intro h item hitem members hmembers
    exact h members (.item hitem hmembers)
  · intro h members hmembers
    cases hmembers with
    | item hitem hpart => exact h _ hitem members hpart

lemma distinct_object_iff (members : List (String × Json)) :
    (object members).Distinct ↔
      (Entries.keys members).Nodup ∧ ∀ member ∈ members, member.2.Distinct := by
  constructor
  · intro h
    refine ⟨h members (.refl _), ?_⟩
    intro member hmember others hothers
    exact h others (.member hmember hothers)
  · rintro ⟨hnames, hbelow⟩ others hothers
    cases hothers with
    | refl => exact hnames
    | member hmember hpart => exact hbelow _ hmember others hpart

lemma keys_mergedMembers (members : List (String × Json)) :
    Entries.keys (mergedMembers members) = Entries.keys members := by
  rw [mergedMembers_eq, Entries.keys, List.map_map]
  rfl

/-- **Nothing happens to a value that repeats no member.** -/
theorem merged_eq_self {j : Json} (h : j.Distinct) : j.merged = j := by
  induction j with
  | array items ih =>
      rw [distinct_array_iff] at h
      rw [merged, mergedItems_eq,
        List.map_congr_left fun item hitem => ih item hitem (h item hitem),
        List.map_id']
  | object members ih =>
      rw [distinct_object_iff] at h
      have hmembers : mergedMembers members = members := by
        rw [mergedMembers_eq]
        refine (List.map_congr_left fun member hmember => ?_).trans (List.map_id members)
        rw [ih member hmember (h.2 member hmember), id]
      rw [merged, hmembers, Entries.ofList_of_nodup h.1]
  | _ => rfl

/-! ## The length of a text -/

/-- The room that an item takes, with the mark before it. -/
def itemRoom (item : Json) : ℕ := item.compactChars.length + 1

/-- The room that a member takes, with the mark before it and the one before its value. -/
def memberRoom (member : String × Json) : ℕ :=
  (textChars member.1).length + member.2.compactChars.length + 2

lemma length_compactItems (items : List Json) :
    (compactItems items).length = (items.map itemRoom).sum := by
  induction items with
  | nil => rfl
  | cons item rest ih =>
      simp [compactItems, itemRoom, ih]
      omega

lemma length_compactMembers (members : List (String × Json)) :
    (compactMembers members).length = (members.map memberRoom).sum := by
  induction members with
  | nil => rfl
  | cons member rest ih =>
      obtain ⟨name, value⟩ := member
      simp [compactMembers, memberRoom, ih]
      omega

-- In the place of the first mark there is a bracket, and there is another one at the end.
lemma length_compactChars_array {items : List Json} (h : items ≠ []) :
    (compactChars (.array items)).length = (items.map itemRoom).sum + 1 := by
  obtain ⟨item, rest, rfl⟩ := List.exists_cons_of_ne_nil h
  simp [compactChars, length_compactItems, itemRoom]
  omega

lemma length_compactChars_object {members : List (String × Json)} (h : members ≠ []) :
    (compactChars (.object members)).length = (members.map memberRoom).sum + 1 := by
  obtain ⟨⟨name, value⟩, rest, rfl⟩ := List.exists_cons_of_ne_nil h
  simp [compactChars, length_compactMembers, memberRoom]
  omega

/-! ## Merging -/

/-- Where no part is longer than before, but all together are no shorter, none is shorter. -/
lemma le_of_sum_le {α : Type} {f g : α → ℕ} {parts : List α} (hle : ∀ part ∈ parts, f part ≤ g part)
    (hsum : (parts.map g).sum ≤ (parts.map f).sum) : ∀ part ∈ parts, g part ≤ f part := by
  by_contra! hless
  exact absurd hsum (Nat.not_le.mpr (List.sum_lt_sum f g hle hless))

/-- **Merging never makes the text longer**, and where it does not make it shorter there is no
repeated member. -/
lemma length_compactChars_merged (j : Json) :
    j.merged.compactChars.length ≤ j.compactChars.length ∧
      (j.compactChars.length ≤ j.merged.compactChars.length → j.Distinct) := by
  induction j with
  | array items ih =>
      rcases eq_or_ne items [] with rfl | hitems
      · simp [merged, mergedItems, distinct_array_iff]
      have hrooms : ∀ item ∈ items, itemRoom item.merged ≤ itemRoom item := fun item hitem =>
        Nat.add_le_add_right (ih item hitem).1 1
      rw [merged, mergedItems_eq, length_compactChars_array hitems,
        length_compactChars_array (mt List.map_eq_nil_iff.mp hitems), List.map_map]
      refine ⟨Nat.add_le_add_right (List.sum_le_sum hrooms) 1, fun hsum => ?_⟩
      rw [distinct_array_iff]
      intro item hitem
      have hroom := le_of_sum_le hrooms (Nat.le_of_add_le_add_right hsum) item hitem
      exact (ih item hitem).2 (Nat.le_of_add_le_add_right hroom)
  | object members ih =>
      rcases eq_or_ne members [] with rfl | hmembers
      · simp [merged, mergedMembers, Entries.ofList, distinct_object_iff, Entries.keys]
      -- What is kept takes no more room than all merged members, and these no more than before.
      have hkept := Entries.sum_ofList_le memberRoom (mergedMembers members)
      have hrooms : ∀ member ∈ members,
          memberRoom (member.1, member.2.merged) ≤ memberRoom member :=
        fun member hmember =>
          Nat.add_le_add_right (Nat.add_le_add_left (ih member hmember).1 _) 2
      have hmerged : ((mergedMembers members).map memberRoom).sum =
          (members.map fun member => memberRoom (member.1, member.2.merged)).sum := by
        rw [mergedMembers_eq, List.map_map]
        rfl
      have hall := List.sum_le_sum hrooms
      have hsome : Entries.ofList (mergedMembers members) ≠ [] := by
        rw [Ne, Entries.ofList_eq_nil_iff, mergedMembers_eq, List.map_eq_nil_iff]
        exact hmembers
      rw [merged, length_compactChars_object hmembers, length_compactChars_object hsome]
      refine ⟨by omega, fun hsum => ?_⟩
      rw [distinct_object_iff, ← keys_mergedMembers]
      constructor
      · refine Entries.nodup_of_sum_ofList memberRoom (fun member => ?_) (by omega)
        rw [memberRoom]
        omega
      · intro member hmember
        have hroom := le_of_sum_le hrooms (by omega) member hmember
        refine (ih member hmember).2 ?_
        simp only [memberRoom] at hroom
        omega
  | _ =>
      refine ⟨le_rfl, fun _ members hmembers => ?_⟩
      cases hmembers

/-- **The text stays the same exactly if no member is repeated.** -/
theorem compact_merged_eq_iff (j : Json) : j.merged.compact = j.compact ↔ j.Distinct := by
  constructor
  · intro h
    have hchars : j.merged.compactChars = j.compactChars := String.ofList_injective h
    exact (length_compactChars_merged j).2 (Nat.le_of_eq (congrArg List.length hchars).symm)
  · intro h
    rw [merged_eq_self h]

end Json

end DataShape
