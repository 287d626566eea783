import DataShape.Text.Ranges

/-!
# Operations on sets of ranges

A set of code points is decided by the places where membership changes.  Two sets are combined in
one sweep over the changes of both, which decides the membership of each stretch from that in
either set; so union, intersection, difference and complement are one function, and what comes out
of it is in order and without ranges that touch.

* `Ranges.combine` — the sweep.
* `Ranges.union`, `Ranges.inter`, `Ranges.diff`, `Ranges.symmDiff`, `Ranges.compl`.
* `Ranges.ofCodes` — the set of a list of code points.
-/

namespace DataShape

namespace Ranges

/-! ## Changes of membership -/

/-- The code points at which membership changes. -/
def changes (r : Ranges) : List Nat := r.flatMap fun (first, last) => [first, last + 1]

/-- The set that has the given changes. -/
def ofChanges : List Nat → Ranges
  | first :: next :: rest => (first, next - 1) :: ofChanges rest
  | _ => []

/-- Sweeps over the changes of two sets.  `inA` and `inB` say whether the code points before the
next change are members of them, and `inside` whether they are of the combination.  Every step
takes a change, so `steps` needs to be no more than their number. -/
def sweep (f : Bool → Bool → Bool) : Nat → Bool → Bool → Bool → List Nat → List Nat → List Nat
  | 0, _, _, _, _, _ => []
  | steps + 1, inA, inB, inside, as, bs =>
    let goOn := fun at' inA inB as bs =>
      if f inA inB == inside then sweep f steps inA inB inside as bs
      else at' :: sweep f steps inA inB (f inA inB) as bs
    match as, bs with
    | [], [] => []
    | a :: as, [] => goOn a (!inA) inB as []
    | [], b :: bs => goOn b inA (!inB) [] bs
    | a :: as, b :: bs =>
      if a < b then goOn a (!inA) inB as (b :: bs)
      else if b < a then goOn b inA (!inB) (a :: as) bs
      else goOn a (!inA) (!inB) as bs

/-- The code points whose membership follows from that in two sets; none that are in neither. -/
def combine (f : Bool → Bool → Bool) (a b : Ranges) : Ranges :=
  ofChanges (sweep f (2 * (a.length + b.length)) false false false a.changes b.changes)

/-! ## Operations -/

/-- All code points. -/
def everyCode : Ranges := [(0, 0x10FFFF)]

/-- The code points in either set. -/
def union (a b : Ranges) : Ranges := combine (· || ·) a b

/-- The code points in both sets. -/
def inter (a b : Ranges) : Ranges := combine (· && ·) a b

/-- The code points in the first set but not in the second. -/
def diff (a b : Ranges) : Ranges := combine (fun inA inB => inA && !inB) a b

/-- The code points in exactly one of the sets. -/
def symmDiff (a b : Ranges) : Ranges := combine (fun inA inB => inA != inB) a b

/-- The code points that are not in the set. -/
def compl (a : Ranges) : Ranges := diff everyCode a

/-- The union of a list of sets. -/
def unions (sets : List Ranges) : Ranges := sets.foldl union []

/-- The set of code points that are given in increasing order. -/
def ofCodes : List Nat → Ranges
  | [] => []
  | code :: rest => match ofCodes rest with
    | (first, last) :: more =>
      if first = code + 1 then (code, last) :: more else (code, code) :: (first, last) :: more
    | [] => [(code, code)]

end Ranges

end DataShape
