import Mathlib.Algebra.Order.Field.Power
import Mathlib.Algebra.Order.Field.Rat
import Mathlib.Tactic.FieldSimp
import Mathlib.Tactic.Linarith
import Mathlib.Tactic.Ring
import DataShape.Numeric.Rounding

/-!
# The number that a word denotes

A finite word denotes a sign times a significand times a power of two, as the format lays down.  The
library counts the same number in units of `2 ^ -1074`, where it is an integer.

* `Binary64.value` — the number itself.
* `Binary64.value_eq` — counted in units it is `Binary64.scaled`.
* `Binary64.magnitude_lt_iff` — the shift says between which powers of two a magnitude lies.
-/

namespace DataShape

namespace Binary64

/-! ## Bounds of the fields -/

variable (x : Binary64)

lemma exponentField_lt : x.exponentField < 2 ^ 11 := Nat.mod_lt _ (by decide)

lemma fraction_lt : x.fraction < 2 ^ 52 := Nat.mod_lt _ (by decide)

lemma unitsPerOne_eq : unitsPerOne = 2 ^ 1074 := by decide +kernel

lemma unitsPerOne_pos : 0 < unitsPerOne := by decide +kernel

lemma significand_lt : x.significand < 2 ^ 53 := by
  have h := x.fraction_lt
  rw [significand, Nat.pow_eq]
  split_ifs <;> omega

variable {x}

/-- Only the first shift has significands without the hidden bit. -/
lemma le_significand (h : x.shift ≠ 0) : 2 ^ 52 ≤ x.significand := by
  have hfield : x.exponentField ≠ 0 := by
    intro hzero
    simp [shift, hzero] at h
  rw [significand, if_neg hfield, Nat.pow_eq]
  omega

lemma isFinite_iff : x.isFinite = true ↔ x.shift ≤ 2045 := by
  have h := x.exponentField_lt
  simp only [isFinite, shift, bne_iff_ne, ne_eq]
  omega

/-- **The shift says how large a magnitude is**, since every significand but the smallest has its
highest bit set. -/
lemma magnitude_lt_iff (k : ℕ) : x.magnitude < 2 ^ 53 * 2 ^ k ↔ x.shift ≤ k := by
  rw [magnitude, Nat.pow_eq]
  constructor
  · intro h
    by_contra hshift
    have hbit : 2 ^ 52 ≤ x.significand := le_significand (by omega)
    have hpower : 2 ^ (k + 1) ≤ 2 ^ x.shift := Nat.pow_le_pow_right (by decide) (by omega)
    have hle : 2 ^ 52 * 2 ^ (k + 1) ≤ x.significand * 2 ^ x.shift := Nat.mul_le_mul hbit hpower
    have hsame : 2 ^ 52 * 2 ^ (k + 1) = 2 ^ 53 * 2 ^ k := by ring
    omega
  · intro h
    calc x.significand * 2 ^ x.shift
        < 2 ^ 53 * 2 ^ x.shift := Nat.mul_lt_mul_of_pos_right x.significand_lt (Nat.two_pow_pos _)
      _ ≤ 2 ^ 53 * 2 ^ k := Nat.mul_le_mul_left _ (Nat.pow_le_pow_right (by decide) h)

/-- What is not beyond a finite number is finite. -/
lemma isFinite_of_magnitude_le {y : Binary64} (h : x.isFinite = true)
    (hle : y.magnitude ≤ x.magnitude) : y.isFinite = true := by
  have hshift : y.shift ≤ x.shift :=
    (magnitude_lt_iff _).mp (hle.trans_lt ((magnitude_lt_iff _).mpr le_rfl))
  exact isFinite_iff.mpr (hshift.trans (isFinite_iff.mp h))

lemma isNaN_eq_false (h : x.isFinite = true) : x.isNaN = false := by
  simp only [isFinite, bne_iff_ne] at h
  simp [isNaN, h]

lemma natAbs_scaled : x.scaled.natAbs = x.magnitude := by
  rw [scaled]
  split_ifs <;> simp

/-! ## The number itself -/

variable (x)

/-- **The number that a finite word denotes.**  The fraction bits stand behind the point, with a one
in front of it, and the exponent field counts the power of two from `-1023` on; where the field is
zero there is no one, and the power is that of the field one. -/
def value : ℚ :=
  let sign : ℚ := if x.isNegative then -1 else 1
  let tail : ℚ := x.fraction / 2 ^ 52
  if x.exponentField = 0 then sign * tail * 2 ^ (-1022 : ℤ)
  else sign * (1 + tail) * 2 ^ ((x.exponentField : ℤ) - 1023)

/-- The significand as a whole number belongs to a power of two that is smaller by fifty-two. -/
lemma cast_magnitude (h : x.exponentField ≠ 0) :
    (x.magnitude : ℚ) = (2 ^ 52 + x.fraction) * (2 ^ ((x.exponentField : ℤ) - 1) : ℚ) := by
  have hshift : (x.shift : ℤ) = x.exponentField - 1 := by
    rw [shift]
    omega
  rw [magnitude, significand, if_neg h, Nat.pow_eq, Nat.pow_eq, ← hshift, zpow_natCast]
  push_cast
  norm_num

/-- **Counted in units, the number is an integer.** -/
theorem value_eq : x.value = x.scaled / unitsPerOne := by
  have hsign : (x.scaled : ℚ) = (if x.isNegative then -1 else 1) * (x.magnitude : ℚ) := by
    rw [scaled]
    split_ifs <;> simp
  have hunit : ((unitsPerOne : ℕ) : ℚ) = 2 ^ (1074 : ℤ) := by
    rw [unitsPerOne_eq, Nat.cast_pow, ← zpow_natCast, Nat.cast_ofNat, Nat.cast_ofNat]
  rw [hsign, hunit, value]
  by_cases h : x.exponentField = 0
  · have hmagnitude : x.magnitude = x.fraction := by
      simp [magnitude, significand, shift, h]
    have hpower : (2 : ℚ) ^ (-1022 : ℤ) = 2 ^ 52 / 2 ^ (1074 : ℤ) := by
      rw [← zpow_natCast, ← zpow_sub₀ two_ne_zero]
      rfl
    rw [if_pos h, hmagnitude, hpower]
    field_simp
  · have hpower : (2 : ℚ) ^ ((x.exponentField : ℤ) - 1023) =
        2 ^ 52 * 2 ^ ((x.exponentField : ℤ) - 1) / 2 ^ (1074 : ℤ) := by
      rw [← zpow_natCast, ← zpow_add₀ two_ne_zero, ← zpow_sub₀ two_ne_zero]
      congr 1
      push_cast
      omega
    rw [if_neg h, x.cast_magnitude h, hpower]
    field_simp

variable {x}

lemma value_eq_intCast_iff {n : ℤ} : x.value = n ↔ x.scaled = n * unitsPerOne := by
  have hunit : (unitsPerOne : ℚ) ≠ 0 := Nat.cast_ne_zero.mpr unitsPerOne_pos.ne'
  rw [value_eq, div_eq_iff hunit]
  exact_mod_cast Iff.rfl

lemma value_eq_value_iff {y : Binary64} : x.value = y.value ↔ x.scaled = y.scaled := by
  have hunit : (unitsPerOne : ℚ) ≠ 0 := Nat.cast_ne_zero.mpr unitsPerOne_pos.ne'
  rw [value_eq, value_eq, div_left_inj' hunit, Int.cast_inj]

/-- An infinity has a count of its own. -/
lemma isFinite_of_value_eq {y : Binary64} (h : x.isFinite = true) (hsame : x.value = y.value) :
    y.isFinite = true := by
  refine isFinite_of_magnitude_le h ?_
  rw [← natAbs_scaled, ← natAbs_scaled, value_eq_value_iff.mp hsame]

end Binary64

end DataShape
