import DataShape.Text.CaseVariants
import DataShape.Text.RangeAlgebra

/-!
# Sets with all their variants in case

The variants in case of the members of a set, table entry by table entry.

* `caseClosure` — a set with the variants of its members.
-/

namespace DataShape

namespace Text

/-- The code points from `first` to `last`, `step` apart. -/
def CaseRun.lowerCodes (r : CaseRun) : List Nat :=
  (List.range ((r.last - r.first) / r.step + 1)).map fun index => r.first + index * r.step

/-- The partners, in a run, of the members of a set. -/
def CaseRun.partners (r : CaseRun) (set : Ranges) : Ranges :=
  let lower := r.lowerCodes
  let raised := (lower.filter set.containsCode).map (· + r.distance)
  let lowered := lower.filter fun code => set.containsCode (code + r.distance)
  (Ranges.ofCodes raised).union (Ranges.ofCodes lowered)

/-- A group of variants, if one of them is a member of a set. -/
def groupPartners (set : Ranges) (group : List Nat) : Ranges :=
  if group.any set.containsCode then Ranges.ofCodes group else []

/-- **A set with the variants in case of its members.** -/
def caseClosure (set : Ranges) : Ranges :=
  Ranges.unions
    (set :: (caseRuns.map (·.partners set) ++ caseGroups.map (groupPartners set)))

end Text

end DataShape
