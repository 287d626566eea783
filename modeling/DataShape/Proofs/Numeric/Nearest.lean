import Mathlib.Algebra.Order.Field.Basic
import Mathlib.Data.Nat.Dist
import DataShape.Proofs.Numeric.ExactValue

/-!
# Rounding to the nearest number

A quotient is rounded on a grid: the multiples of the power of two that leaves it fifty-three bits.
Every number of the format lies on that grid, or below the part of it where the quotient is; so the
nearest multiple is the nearest number.  Past the largest finite number there is no word for the
multiple.  An integer is such a quotient, and one that the format has is rounded to itself.

* `Binary64.dist_roundQuotient_le` — no multiple is nearer than the one that is chosen.
* `Binary64.magnitude_of_word` — the sum of shift and significand is the word of their product.
* `Binary64.dist_nearestUnits_le` — no magnitude of the format is nearer than the one chosen.
* `Binary64.abs_value_ofInt_sub_le` — no number is nearer to an integer than what it is rounded to.
* `Binary64.value_ofInt` — **an integer that the format has is rounded to itself.**
-/

namespace DataShape

namespace Binary64

/-! ## The nearest multiple -/

lemma roundQuotient_cases (numerator denominator : ℕ) :
    (roundQuotient numerator denominator = numerator / denominator ∧
        2 * (numerator % denominator) ≤ denominator) ∨
      (roundQuotient numerator denominator = numerator / denominator + 1 ∧
        denominator ≤ 2 * (numerator % denominator)) := by
  simp only [roundQuotient]
  split_ifs <;> omega

/-- **No multiple of the denominator is nearer** than the one that is chosen. -/
lemma dist_roundQuotient_le {denominator : ℕ} (h : 0 < denominator) (numerator k : ℕ) :
    Nat.dist numerator (roundQuotient numerator denominator * denominator) ≤
      Nat.dist numerator (k * denominator) := by
  have hdivision := Nat.div_add_mod' numerator denominator
  have hrest := Nat.mod_lt numerator h
  -- Every other multiple is at or below the quotient, or at or above the next one.
  have hside : k * denominator ≤ numerator / denominator * denominator ∨
      numerator / denominator * denominator + denominator ≤ k * denominator := by
    rw [← Nat.succ_mul]
    exact (Nat.lt_or_ge (numerator / denominator) k).symm.imp (Nat.mul_le_mul_right _)
      (Nat.mul_le_mul_right _)
  unfold Nat.dist
  rcases roundQuotient_cases numerator denominator with ⟨hquotient, hhalf⟩ | ⟨hquotient, hhalf⟩
  · rw [hquotient]
    omega
  · rw [hquotient, Nat.succ_mul]
    omega

/-! ## The grid of a quotient -/

variable {x : Binary64} {numerator denominator : ℕ}

/-- The shift leaves fifty-three bits of a quotient, or all of a smaller one. -/
lemma surplusBits_bounds (numerator denominator : ℕ) :
    numerator / denominator < 2 ^ (53 + surplusBits numerator denominator) ∧
      (surplusBits numerator denominator ≠ 0 →
        2 ^ (52 + surplusBits numerator denominator) ≤ numerator / denominator) := by
  rw [surplusBits]
  constructor
  · exact Nat.lt_log2_self.trans_le (Nat.pow_le_pow_right (by decide) (by omega))
  · intro hsurplus
    have hquotient : numerator / denominator ≠ 0 := by
      intro hzero
      simp [hzero] at hsurplus
    refine le_trans (Nat.pow_le_pow_right (by decide) ?_) (Nat.log2_self_le hquotient)
    omega

/-- The significand of a rounded quotient: fifty-three bits, or the next power of two. -/
lemma significand_bounds (numerator denominator : ℕ) :
    let s := surplusBits numerator denominator
    let significand := roundQuotient numerator (denominator * Nat.pow 2 s)
    significand ≤ 2 ^ 53 ∧ (s ≠ 0 → 2 ^ 52 ≤ significand) := by
  intro s significand
  obtain ⟨hupper, hlower⟩ := surplusBits_bounds numerator denominator
  have hquotient : numerator / (denominator * Nat.pow 2 s) = numerator / denominator / 2 ^ s :=
    (Nat.div_div_eq_div_mul _ _ _).symm
  have hround := roundQuotient_cases numerator (denominator * Nat.pow 2 s)
  rw [hquotient] at hround
  have hless : numerator / denominator / 2 ^ s < 2 ^ 53 := by
    rw [Nat.div_lt_iff_lt_mul (Nat.two_pow_pos s), ← Nat.pow_add]
    exact hupper
  constructor
  · omega
  · intro hs
    have hmore : 2 ^ 52 ≤ numerator / denominator / 2 ^ s := by
      rw [Nat.le_div_iff_mul_le (Nat.two_pow_pos s), ← Nat.pow_add]
      exact hlower hs
    omega

/-- A magnitude lies on a grid, or below the part of it with fifty-three bits. -/
lemma magnitude_on_grid (x : Binary64) (s : ℕ) :
    (∃ k, x.magnitude = k * 2 ^ s) ∨ (s ≠ 0 ∧ x.magnitude < 2 ^ 52 * 2 ^ s) := by
  rcases Nat.lt_or_ge x.shift s with hless | hmore
  · obtain ⟨t, rfl⟩ : ∃ t, s = t + 1 := ⟨s - 1, by omega⟩
    have hbelow : x.magnitude < 2 ^ 53 * 2 ^ t := (magnitude_lt_iff t).mpr (by omega)
    have hsame : 2 ^ 53 * 2 ^ t = 2 ^ 52 * 2 ^ (t + 1) := by ring
    exact .inr ⟨Nat.succ_ne_zero t, hsame ▸ hbelow⟩
  · refine .inl ⟨x.significand * 2 ^ (x.shift - s), ?_⟩
    rw [magnitude, Nat.pow_eq, Nat.mul_assoc, ← Nat.pow_add, Nat.sub_add_cancel hmore]

/-- **No magnitude of the format is nearer** to a quotient than the one that is chosen. -/
theorem dist_nearestUnits_le (h : 0 < denominator) (numerator : ℕ) (x : Binary64) :
    Nat.dist numerator (nearestUnits numerator denominator * denominator) ≤
      Nat.dist numerator (x.magnitude * denominator) := by
  obtain ⟨-, hlower⟩ := surplusBits_bounds numerator denominator
  rw [nearestUnits]
  generalize surplusBits numerator denominator = s at hlower ⊢
  have hgrid : ∀ k, k * 2 ^ s * denominator = k * (denominator * 2 ^ s) := fun k => by ring
  have hnearest := dist_roundQuotient_le (Nat.mul_pos h (Nat.two_pow_pos s)) numerator
  simp only [Nat.pow_eq, hgrid]
  rcases x.magnitude_on_grid s with ⟨k, hk⟩ | ⟨hs, hbelow⟩
  · rw [hk, hgrid]
    exact hnearest k
  · -- Between the magnitude and the quotient there is the lowest multiple with fifty-three bits.
    have hedge : 2 ^ 52 * (denominator * 2 ^ s) ≤ numerator := by
      have hquotient := (Nat.le_div_iff_mul_le h).mp (hlower hs)
      rwa [Nat.pow_add, hgrid] at hquotient
    have hless : x.magnitude * denominator < 2 ^ 52 * (denominator * 2 ^ s) := by
      rw [← hgrid]
      exact Nat.mul_lt_mul_of_pos_right hbelow h
    refine (hnearest (2 ^ 52)).trans ?_
    unfold Nat.dist
    omega

/-! ## Words -/

lemma word_ofSignAndWord (negative : Bool) {w : ℕ} (h : w < 2 ^ 63) :
    (ofSignAndWord negative w).word = if negative then 2 ^ 63 + w else w := by
  rw [word, ofSignAndWord, UInt64.toNat_ofNat', Nat.mod_eq_of_lt]
  · rfl
  · split_ifs
    · exact Nat.add_lt_add_left h (2 ^ 63)
    · exact h.trans (by decide)

lemma word_ofSignAndWord_mod (negative : Bool) {w : ℕ} (h : w < 2 ^ 63) :
    (ofSignAndWord negative w).word % 2 ^ 63 = w := by
  rw [word_ofSignAndWord negative h]
  split_ifs <;> omega

lemma isNegative_ofSignAndWord (negative : Bool) {w : ℕ} (h : w < 2 ^ 63) :
    (ofSignAndWord negative w).isNegative = negative := by
  rw [isNegative, word_ofSignAndWord negative h, Nat.pow_eq]
  cases negative with
  | false => simpa using h
  | true => simp

/-- The fields below the sign, read off the rest of the word. -/
lemma exponentField_eq : x.exponentField = x.word % 2 ^ 63 / 2 ^ 52 := by
  simp only [exponentField, Nat.pow_eq]
  omega

lemma fraction_eq : x.fraction = x.word % 2 ^ 63 % 2 ^ 52 := by
  simp only [fraction, Nat.pow_eq]
  omega

/-- **The sum of a shift and a significand is the word of their product.**  A significand with one
bit more carries into the shift. -/
lemma magnitude_of_word {s significand : ℕ} (hmost : significand ≤ 2 ^ 53)
    (hleast : s ≠ 0 → 2 ^ 52 ≤ significand) (hword : x.word % 2 ^ 63 = s * 2 ^ 52 + significand) :
    x.magnitude = significand * 2 ^ s := by
  have hfield := x.exponentField_eq
  have hfraction := x.fraction_eq
  rw [hword] at hfield hfraction
  rcases Nat.lt_or_ge significand (2 ^ 52) with hless | hmore
  · obtain rfl : s = 0 := by
      by_contra hs
      exact absurd (hleast hs) (Nat.not_le.mpr hless)
    have hzero : x.exponentField = 0 := by omega
    have hbits : x.fraction = significand := by omega
    simp [magnitude, Binary64.significand, shift, hzero, hbits]
  · rcases Nat.lt_or_ge significand (2 ^ 53) with hbelow | hcarry
    · have hnext : x.exponentField = s + 1 := by omega
      have hbits : 2 ^ 52 + x.fraction = significand := by omega
      simp [magnitude, Binary64.significand, shift, hnext, ← hbits]
    · have hnext : x.exponentField = s + 2 := by omega
      have hbits : x.fraction = 0 := by omega
      obtain rfl : significand = 2 ^ 53 := Nat.le_antisymm hmost hcarry
      simp only [magnitude, Binary64.significand, shift, hnext, hbits, Nat.pow_eq]
      have hsame : 2 ^ 52 * 2 ^ (s + 1) = 2 ^ 53 * 2 ^ s := by ring
      simpa using hsame

/-! ## Integers -/

lemma infinityWord_lt : infinityWord < 2 ^ 63 := by decide

/-- A quotient that has no word has no magnitude either. -/
lemma le_nearestUnits {k : ℕ} (h : (k + 2) * 2 ^ 52 ≤ nearestWord numerator denominator) :
    2 ^ 53 * 2 ^ k ≤ nearestUnits numerator denominator := by
  obtain ⟨hmost, hleast⟩ := significand_bounds numerator denominator
  rw [nearestWord] at h
  rw [nearestUnits]
  simp only [Nat.pow_eq] at h hmost hleast ⊢
  generalize surplusBits numerator denominator = s at h hmost hleast ⊢
  generalize roundQuotient numerator (denominator * 2 ^ s) = significand at h hmost hleast ⊢
  rcases Nat.lt_or_ge k s with hless | hmore
  · have hpower : 2 ^ (k + 1) ≤ 2 ^ s := Nat.pow_le_pow_right (by decide) hless
    calc 2 ^ 53 * 2 ^ k = 2 ^ 52 * 2 ^ (k + 1) := by ring
      _ ≤ significand * 2 ^ s := Nat.mul_le_mul (hleast (by omega)) hpower
  · obtain rfl : s = k := by omega
    exact Nat.mul_le_mul_right _ (by omega)

/-- What is rounded to no more than a finite magnitude has a finite word. -/
lemma nearestWord_lt (h : x.isFinite = true)
    (hle : nearestUnits numerator denominator ≤ x.magnitude) :
    nearestWord numerator denominator < infinityWord := by
  by_contra hword
  have hshift := isFinite_iff.mp h
  have hbeyond : (x.shift + 2) * 2 ^ 52 ≤ nearestWord numerator denominator := by
    refine le_trans ?_ (Nat.not_lt.mp hword)
    rw [infinityWord, Nat.pow_eq]
    exact Nat.mul_le_mul_right _ (by omega)
  have hmagnitude := (magnitude_lt_iff x.shift).mpr le_rfl
  exact absurd (le_nearestUnits hbeyond) (Nat.not_le.mpr (hle.trans_lt hmagnitude))

/-- A finite word has the magnitude that was chosen. -/
lemma magnitude_ofSignAndWord (negative : Bool)
    (h : nearestWord numerator denominator < infinityWord) :
    (ofSignAndWord negative (nearestWord numerator denominator)).magnitude =
      nearestUnits numerator denominator := by
  obtain ⟨hmost, hleast⟩ := significand_bounds numerator denominator
  exact magnitude_of_word hmost hleast (word_ofSignAndWord_mod negative (h.trans infinityWord_lt))

lemma isFinite_ofSignAndWord (negative : Bool) {w : ℕ} (h : w < 2 ^ 63) :
    (ofSignAndWord negative w).isFinite = true ↔ w < infinityWord := by
  have hword := word_ofSignAndWord_mod negative h
  have hfield := (ofSignAndWord negative w).exponentField_eq
  rw [hword] at hfield
  simp only [isFinite, bne_iff_ne, infinityWord, Nat.pow_eq]
  omega

lemma isFinite_ofInt_iff (n : ℤ) :
    (ofInt n).isFinite = true ↔ nearestWord (n.natAbs * unitsPerOne) 1 < infinityWord := by
  rw [ofInt, ofWord?]
  split_ifs with hword
  · rw [Option.getD_some, isFinite_ofSignAndWord _ (hword.trans infinityWord_lt)]
  · rw [Option.getD_none, isFinite_ofSignAndWord _ infinityWord_lt]
    exact iff_of_false (lt_irrefl _) hword

lemma natAbs_mul_unitsPerOne (n : ℤ) : (n * unitsPerOne).natAbs = n.natAbs * unitsPerOne := by
  rw [Int.natAbs_mul, Int.natAbs_natCast]

lemma mul_unitsPerOne_neg_iff (n : ℤ) : n * unitsPerOne < 0 ↔ n < 0 := by
  have hunit : (0 : ℤ) < unitsPerOne := Nat.cast_pos.mpr unitsPerOne_pos
  rw [← not_iff_not, not_lt, not_lt, mul_nonneg_iff_of_pos_right hunit]

/-- What an integer is rounded to has the sign of the integer. -/
lemma scaled_ofInt {n : ℤ} (h : nearestWord (n.natAbs * unitsPerOne) 1 < infinityWord) :
    (ofInt n).scaled = if n < 0 then -(nearestUnits (n.natAbs * unitsPerOne) 1 : ℤ)
      else nearestUnits (n.natAbs * unitsPerOne) 1 := by
  rw [ofInt, ofWord?, if_pos h, Option.getD_some, scaled, magnitude_ofSignAndWord _ h,
    isNegative_ofSignAndWord _ (h.trans infinityWord_lt)]
  simp only [decide_eq_true_eq]

/-- **No number is nearer to an integer than the one it is rounded to**, unless it is infinite. -/
theorem abs_value_ofInt_sub_le {n : ℤ} (hn : (ofInt n).isFinite = true) (x : Binary64) :
    |(ofInt n).value - n| ≤ |x.value - n| := by
  have hunit : (0 : ℚ) < unitsPerOne := Nat.cast_pos.mpr unitsPerOne_pos
  have hunits : |(ofInt n).scaled - n * unitsPerOne| ≤ |x.scaled - n * unitsPerOne| := by
    have hnearest := dist_nearestUnits_le Nat.one_pos (n.natAbs * unitsPerOne) x
    have hsign := mul_unitsPerOne_neg_iff n
    rw [scaled_ofInt ((isFinite_ofInt_iff n).mp hn), Int.abs_eq_natAbs, Int.abs_eq_natAbs]
    rw [← natAbs_scaled, ← natAbs_mul_unitsPerOne] at hnearest
    rw [← natAbs_mul_unitsPerOne]
    unfold Nat.dist at hnearest
    split_ifs <;> omega
  have hvalue : ∀ y : Binary64,
      |y.value - n| = (|y.scaled - n * unitsPerOne| : ℤ) / (unitsPerOne : ℚ) := by
    intro y
    have hdifference : y.value - n = (y.scaled - n * unitsPerOne) / unitsPerOne := by
      rw [y.value_eq, sub_div, mul_div_cancel_right₀ _ hunit.ne']
    rw [hdifference, abs_div, abs_of_pos hunit]
    push_cast
    rfl
  rw [hvalue, hvalue]
  exact div_le_div_of_nonneg_right (Int.cast_le.mpr hunits) hunit.le

/-- An integer that the format has is not rounded to an infinity. -/
lemma isFinite_ofInt {n : ℤ} (hx : x.isFinite = true) (h : x.value = n) :
    (ofInt n).isFinite = true := by
  have hmagnitude : n.natAbs * unitsPerOne = x.magnitude := by
    rw [← natAbs_scaled, value_eq_intCast_iff.mp h, natAbs_mul_unitsPerOne]
  -- Nothing is nearer than the number itself, which is at no distance.
  have hunits : nearestUnits (n.natAbs * unitsPerOne) 1 = x.magnitude := by
    have hnearest := dist_nearestUnits_le Nat.one_pos (n.natAbs * unitsPerOne) x
    rw [Nat.mul_one, Nat.mul_one, hmagnitude, Nat.dist_self] at hnearest
    rw [hmagnitude, ← Nat.eq_of_dist_eq_zero (Nat.le_zero.mp hnearest)]
  exact (isFinite_ofInt_iff n).mpr (nearestWord_lt hx (Nat.le_of_eq hunits))

/-- **An integer that the format has is rounded to itself.** -/
theorem value_ofInt {n : ℤ} (hx : x.isFinite = true) (h : x.value = n) : (ofInt n).value = n := by
  have hnearest := abs_value_ofInt_sub_le (isFinite_ofInt hx h) x
  rw [h, sub_self, abs_zero] at hnearest
  exact sub_eq_zero.mp (abs_nonpos_iff.mp hnearest)

end Binary64

end DataShape
