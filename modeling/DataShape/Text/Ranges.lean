/-!
# Sets of characters as ranges of code points

A character class of the Unicode standard is a table of ranges in increasing order.  Membership
walks the table and stops at the first range that lies above the character, so that questions
about the common low code points are settled at once.

* `Ranges.contains` — membership.
* **`Ranges.containsCode_iff`** — in a table that is in order, stopping early loses nothing.
-/

namespace DataShape

/-- A set of code points: the first and the last of each range, in increasing order. -/
abbrev Ranges := List (Nat × Nat)

namespace Ranges

/-- Whether a code point lies in one of the ranges. -/
def containsCode : Ranges → Nat → Bool
  | [], _ => false
  | (first, last) :: rest, code =>
    if code < first then false else if code ≤ last then true else containsCode rest code

/-- Whether a character lies in one of the ranges. -/
def contains (r : Ranges) (c : Char) : Bool := r.containsCode c.toNat

/-! ## Tables in order -/

/-- Whether the ranges are non-empty, in increasing order and apart from each other, and all lie
at or above `start`. -/
def orderedFrom (start : Nat) : Ranges → Bool
  | [] => true
  | (first, last) :: rest =>
    decide (start ≤ first) && decide (first ≤ last) && orderedFrom (last + 2) rest

/-- Every range of a table in order lies at or above where the table starts. -/
theorem le_of_mem_of_orderedFrom {start : Nat} {r : Ranges} (h : r.orderedFrom start = true)
    {range : Nat × Nat} (hr : range ∈ r) : start ≤ range.1 := by
  induction r generalizing start with
  | nil => cases hr
  | cons head rest ih =>
    obtain ⟨first, last⟩ := head
    simp only [orderedFrom, Bool.and_eq_true, decide_eq_true_eq] at h
    rcases List.mem_cons.1 hr with rfl | hr
    · exact h.1.1
    · have := ih h.2 hr
      omega

/-- **Membership in a table in order** is to lie in one of its ranges. -/
theorem containsCode_iff {start : Nat} {r : Ranges} (h : r.orderedFrom start = true)
    (code : Nat) :
    r.containsCode code = true ↔ ∃ range ∈ r, range.1 ≤ code ∧ code ≤ range.2 := by
  induction r generalizing start with
  | nil => simp [containsCode]
  | cons head rest ih =>
    obtain ⟨first, last⟩ := head
    simp only [orderedFrom, Bool.and_eq_true, decide_eq_true_eq] at h
    rw [containsCode]
    split
    · next below =>
      -- every later range starts even further up
      constructor
      · intro absurd
        cases absurd
      · rintro ⟨range, hr, lower, _⟩
        rcases List.mem_cons.1 hr with rfl | hr
        · omega
        · have := le_of_mem_of_orderedFrom h.2 hr
          omega
    · split
      · next inside => exact ⟨fun _ => ⟨_, List.mem_cons_self, by omega, inside⟩, fun _ => rfl⟩
      · next above =>
        rw [ih h.2]
        constructor
        · rintro ⟨range, hr, bounds⟩
          exact ⟨range, List.mem_cons_of_mem _ hr, bounds⟩
        · rintro ⟨range, hr, lower, upper⟩
          rcases List.mem_cons.1 hr with rfl | hr
          · omega
          · exact ⟨range, hr, lower, upper⟩

end Ranges

end DataShape
