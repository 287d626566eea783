import DataShape.Proofs.Numeric.Nearest
import DataShape.Value.Equality

/-!
# Integers and floating-point numbers

An integer is compared to a floating-point number by two conversions, each of which may lose
something: the integer is rounded, and the number is cut off.  Without a fractional part nothing is
cut off, so what is left is the exact value; and an integer that is this value is not rounded away.

* `Binary64.truncated?_eq_some_iff` — when nothing is cut off.
* `Binary64.equal_iff` — floating-point numbers are equal if they denote the same number.
* `Value.integerEqualsFloat_iff` — **an integer equals exactly the numbers that denote it.**
-/

namespace DataShape

namespace Binary64

variable {x y : Binary64}

/-- **Two floating-point numbers are equal** if neither is a NaN and they denote the same number. -/
lemma equal_iff : x.equal y = true ↔ x.isNaN = false ∧ y.isNaN = false ∧ x.value = y.value := by
  simp [equal, value_eq_value_iff, and_assoc]

/-- A number without a fractional part is a whole number of ones. -/
lemma fractionalUnits_eq_zero_iff : x.fractionalUnits = 0 ↔ (unitsPerOne : ℤ) ∣ x.scaled := by
  rw [fractionalUnits, ← Nat.dvd_iff_mod_eq_zero, ← natAbs_scaled, Int.natCast_dvd]

/-- An integer has no fractional part. -/
lemma fractionalUnits_eq_zero {n : ℤ} (h : x.value = n) : x.fractionalUnits = 0 :=
  fractionalUnits_eq_zero_iff.mpr ⟨n, by rw [value_eq_intCast_iff.mp h, mul_comm]⟩

/-- Where there is no fractional part, nothing is cut off. -/
lemma truncated?_eq_some_iff {n : ℤ} (h : x.fractionalUnits = 0) :
    x.truncated? = some n ↔ x.isFinite = true ∧ x.value = n := by
  have hunit : (unitsPerOne : ℤ) ≠ 0 := Nat.cast_ne_zero.mpr unitsPerOne_pos.ne'
  obtain ⟨whole, hwhole⟩ := fractionalUnits_eq_zero_iff.mp h
  rw [truncated?, value_eq_intCast_iff, hwhole, Int.mul_tdiv_cancel_left _ hunit, mul_comm,
    mul_left_inj' hunit]
  split_ifs with hfinite <;> simp [hfinite]

end Binary64

namespace Value

open Binary64

/-- An integer equals the finite numbers that denote it. -/
lemma integerEqualsFloat_eq_true_iff (n : ℤ) (x : Binary64) :
    integerEqualsFloat n x = true ↔ x.isFinite = true ∧ x.value = n := by
  constructor
  · intro h
    simp only [integerEqualsFloat] at h
    split_ifs at h with hbroken hequal
    rw [Bool.or_eq_true, not_or, Bool.not_eq_true', Bool.not_eq_false, bne_iff_ne, not_not]
      at hbroken
    exact (truncated?_eq_some_iff hbroken.2).mp (beq_iff_eq.mp h)
  · rintro ⟨hfinite, hvalue⟩
    have hwhole := fractionalUnits_eq_zero hvalue
    have htruncated := (truncated?_eq_some_iff hwhole).mpr ⟨hfinite, hvalue⟩
    have hequal : (ofInt n).equal x = true := by
      refine equal_iff.mpr ⟨isNaN_eq_false (isFinite_ofInt hfinite hvalue),
        isNaN_eq_false hfinite, ?_⟩
      rw [value_ofInt hfinite hvalue, hvalue]
    simp [integerEqualsFloat, hfinite, hwhole, hequal, htruncated]

/-- **An integer equals exactly the floating-point numbers that denote it.**  Beyond `2 ^ 53`, where
integers are rounded to their neighbours, it equals none of those, and zero equals the negative zero
too. -/
theorem integerEqualsFloat_iff (n : ℤ) (x : Binary64) :
    (integerEqualsFloat n x = true ↔ x.isFinite = true ∧ x.value = n) ∧
    (2 ^ 53 < n.natAbs → x.value ≠ n → integerEqualsFloat n x = false) ∧
    integerEqualsFloat 0 ⟨0x8000000000000000⟩ = true := by
  refine ⟨integerEqualsFloat_eq_true_iff n x, fun _ hvalue => ?_, by decide +kernel⟩
  rw [← Bool.not_eq_true, integerEqualsFloat_eq_true_iff]
  exact fun hequal => hvalue hequal.2

/-- An integer that is rounded down to `2 ^ 53`. -/
theorem integerEqualsFloat_of_rounded :
    let n : ℤ := 9007199254740993
    let x : Binary64 := ⟨0x4340000000000000⟩
    2 ^ 53 < n.natAbs ∧ Binary64.ofInt n = x ∧ x.value ≠ n ∧ integerEqualsFloat n x = false := by
  intro n x
  have hlarge : 2 ^ 53 < n.natAbs := by decide
  have hvalue : x.value ≠ n := by
    rw [Ne, value_eq_intCast_iff]
    decide +kernel
  exact ⟨hlarge, by decide +kernel, hvalue, (integerEqualsFloat_iff n x).2.1 hlarge hvalue⟩

end Value

end DataShape
