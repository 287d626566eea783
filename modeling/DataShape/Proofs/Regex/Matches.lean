import DataShape.Regex.Search
import Mathlib.Data.Nat.Bitwise

/-!
# What a regular expression matches

An expression relates the positions of a text: a match leads from one position to another, not
before it.  The relation is defined on the tree, without any set of positions.

The matcher follows sets of positions, which it keeps as the bits of numbers, and it follows a
repetition without an upper bound only as often as there are positions.  That is enough: a round
that matches the empty text may be left out, and every other round goes on by a character at least.

* `Regex.Matches` — a match of an expression, from one position to another.
* `Regex.Spans` — a match of the whole text.
* `Regex.testBit_stepMask`, `Regex.testBit_checkMask` — an expression specialised to a text.
* `Regex.testBit_ends` — **the positions that are followed** are the ends of matches.
* `Regex.matchesSomewhere_iff` — whether there is a match anywhere.
-/

namespace DataShape

namespace Regex

/-! ## Matches -/

/-- A relation, applied a number of times. -/
def Rounds (R : Nat → Nat → Prop) : Nat → Nat → Nat → Prop
  | 0, i, j => i = j
  | count + 1, i, j => ∃ k, R i k ∧ Rounds R count k j

/-- The check holds at a position of the text. -/
def Check.HoldsAt (check : Check) (text : List Char) (i : Nat) : Prop :=
  check.holds (if i = 0 then none else text[i - 1]?) text[i]? = true

/-- **The expression has a match** in the text that leads from one position to another. -/
def Matches (text : List Char) : Regex → Nat → Nat → Prop
  | .empty, i, j => i = j
  | .step s, i, j => j = i + 1 ∧ ∃ c, text[i]? = some c ∧ s.set.contains c = true
  | .check c, i, j => i = j ∧ c.HoldsAt text i
  | .seq a b, i, j => ∃ k, Matches text a i k ∧ Matches text b k j
  | .alt a b, i, j => Matches text a i j ∨ Matches text b i j
  | .group _ a, i, j => Matches text a i j
  | .times a least most _, i, j =>
    ∃ more, (∀ m ∈ most, more ≤ m - least) ∧ Rounds (Matches text a) (least + more) i j

/-- **The expression has a match that spans the whole text.** -/
def Spans (r : Regex) (text : List Char) : Prop := Matches text r 0 text.length

variable {R : Nat → Nat → Prop}

lemma rounds_add (first second : Nat) (i j : Nat) :
    Rounds R (first + second) i j ↔ ∃ k, Rounds R first i k ∧ Rounds R second k j := by
  induction first generalizing i with
  | zero => simp [Rounds]
  | succ first ih =>
      rw [Nat.succ_add]
      simp only [Rounds, ih]
      constructor
      · rintro ⟨k, hfirst, l, hrest, hsecond⟩
        exact ⟨l, ⟨k, hfirst, hrest⟩, hsecond⟩
      · rintro ⟨l, ⟨k, hfirst, hrest⟩, hsecond⟩
        exact ⟨k, hfirst, l, hrest, hsecond⟩

lemma rounds_succ (count : Nat) (i j : Nat) :
    Rounds R (count + 1) i j ↔ ∃ k, Rounds R count i k ∧ R k j := by
  rw [rounds_add]
  simp [Rounds]

lemma Rounds.le {limit : Nat} (hR : ∀ i j, i ≤ limit → R i j → i ≤ j ∧ j ≤ limit) {count i j : Nat}
    (hi : i ≤ limit) (h : Rounds R count i j) : i ≤ j ∧ j ≤ limit := by
  induction count generalizing i with
  | zero => exact h ▸ ⟨le_refl i, hi⟩
  | succ count ih =>
      obtain ⟨k, hfirst, hrest⟩ := h
      have hk := hR i k hi hfirst
      have hj := ih hk.2 hrest
      exact ⟨hk.1.trans hj.1, hj.2⟩

/-- **Empty rounds may be left out**, so there need not be more rounds than characters. -/
lemma Rounds.shorten {limit : Nat} (hR : ∀ i j, i ≤ limit → R i j → i ≤ j ∧ j ≤ limit)
    {count i j : Nat} (hi : i ≤ limit) (h : Rounds R count i j) :
    ∃ fewer, fewer ≤ j - i ∧ Rounds R fewer i j := by
  induction count generalizing i with
  | zero => exact ⟨0, Nat.zero_le _, h⟩
  | succ count ih =>
      obtain ⟨k, hfirst, hrest⟩ := h
      have hk := hR i k hi hfirst
      have hj := Rounds.le hR hk.2 hrest
      obtain ⟨fewer, hfewer, hrounds⟩ := ih hk.2 hrest
      rcases hk.1.eq_or_lt with rfl | hlt
      · exact ⟨fewer, hfewer, hrounds⟩
      · exact ⟨fewer + 1, by omega, k, hfirst, hrounds⟩

/-- A match does not go backwards, and not beyond the text. -/
theorem Matches.le {text : List Char} {r : Regex} {i j : Nat} (hi : i ≤ text.length)
    (h : Matches text r i j) : i ≤ j ∧ j ≤ text.length := by
  induction r generalizing i j with
  | empty => exact h ▸ ⟨le_refl i, hi⟩
  | step s =>
      obtain ⟨rfl, c, hc, -⟩ := h
      have hlt := (List.getElem?_eq_some_iff.mp hc).1
      omega
  | check c => exact h.1 ▸ ⟨le_refl i, hi⟩
  | seq a b iha ihb =>
      obtain ⟨k, ha, hb⟩ := h
      have hk := iha hi ha
      have hj := ihb hk.2 hb
      exact ⟨hk.1.trans hj.1, hj.2⟩
  | alt a b iha ihb => exact h.elim (iha hi) (ihb hi)
  | group captures a ih => exact ih hi h
  | times a least most lazily ih =>
      obtain ⟨more, -, hrounds⟩ := h
      exact hrounds.le (fun i j hi hR => ih hi hR) hi

/-! ## Specialising to a text -/

lemma stepMask_double (accepts : Char → Bool) (place : Nat) (text : List Char) :
    stepMask accepts (2 * place) text = 2 * stepMask accepts place text := by
  induction text generalizing place with
  | nil => rfl
  | cons c rest ih =>
      rw [stepMask, stepMask, ih, Nat.mul_add]
      split_ifs <;> rfl

/-- **A step** can be taken where its set has the character. -/
lemma testBit_stepMask (accepts : Char → Bool) (text : List Char) (i : Nat) :
    (stepMask accepts 1 text).testBit i = true ↔ ∃ c, text[i]? = some c ∧ accepts c = true := by
  induction text generalizing i with
  | nil => simp [stepMask]
  | cons c rest ih =>
      rw [stepMask, stepMask_double]
      cases i with
      | zero => cases haccepts : accepts c <;> simp [Nat.testBit_zero, haccepts]
      | succ i =>
          have hhalf : ((if accepts c = true then 1 else 0) + 2 * stepMask accepts 1 rest) / 2 =
              stepMask accepts 1 rest := by
            split_ifs <;> omega
          rw [Nat.testBit_succ, hhalf, ih, List.getElem?_cons_succ]

lemma checkMask_double (holds : Option Char → Option Char → Bool) (place : Nat)
    (before : Option Char) (text : List Char) :
    checkMask holds (2 * place) before text = 2 * checkMask holds place before text := by
  induction text generalizing place before with
  | nil =>
      rw [checkMask, checkMask]
      split_ifs <;> rfl
  | cons c rest ih =>
      rw [checkMask, checkMask, ih, Nat.mul_add]
      split_ifs <;> rfl

/-- **A check** can be passed where it holds. -/
lemma testBit_checkMask (holds : Option Char → Option Char → Bool) (before : Option Char)
    (text : List Char) (i : Nat) (hi : i ≤ text.length) :
    (checkMask holds 1 before text).testBit i =
      holds (if i = 0 then before else text[i - 1]?) text[i]? := by
  induction text generalizing before i with
  | nil =>
      obtain rfl := Nat.le_zero.mp hi
      rw [checkMask]
      cases hholds : holds before none <;> simp [hholds]
  | cons c rest ih =>
      rw [checkMask, checkMask_double]
      cases i with
      | zero => cases hholds : holds before (some c) <;> simp [Nat.testBit_zero, hholds]
      | succ i =>
          have hhalf : ((if holds before (some c) = true then 1 else 0) +
              2 * checkMask holds 1 (some c) rest) / 2 = checkMask holds 1 (some c) rest := by
            split_ifs <;> omega
          rw [Nat.testBit_succ, hhalf, ih (some c) i (Nat.le_of_succ_le_succ hi)]
          cases i <;> simp

/-! ## Following positions -/

/-- The set of positions has those to which the relation leads from another one. -/
def LeadsTo (limit : Nat) (R : Nat → Nat → Prop) (follow : Nat → Nat) : Prop :=
  ∀ positions, (∀ i, positions.testBit i = true → i ≤ limit) →
    ∀ j, (follow positions).testBit j = true ↔ ∃ i, positions.testBit i = true ∧ R i j

lemma exactly_eq_iterate (follow : Nat → Nat) (count positions : Nat) :
    exactly follow count positions = follow^[count] positions := by
  induction count generalizing positions with
  | zero => rfl
  | succ count ih =>
      rw [exactly, Function.iterate_succ_apply]
      split_ifs with hfixed
      · rw [hfixed, Function.iterate_fixed hfixed]
      · exact ih _

lemma upTo_eq_iterate (follow : Nat → Nat) (count positions : Nat) :
    upTo follow count positions = (fun found => found ||| follow found)^[count] positions := by
  induction count generalizing positions with
  | zero => rfl
  | succ count ih =>
      rw [upTo, Function.iterate_succ_apply]
      split_ifs with hfixed
      · rw [hfixed, Function.iterate_fixed hfixed]
      · exact ih _

section Following

variable {limit : Nat} {follow : Nat → Nat} (hfollow : LeadsTo limit R follow)
  (hR : ∀ i j, i ≤ limit → R i j → i ≤ j ∧ j ≤ limit)

include hfollow hR

lemma LeadsTo.exactly (count : Nat) : LeadsTo limit (Rounds R count) (exactly follow count) := by
  intro positions hpositions j
  rw [exactly_eq_iterate]
  induction count generalizing j with
  | zero => simp [Rounds]
  | succ count ih =>
      have hbounded : ∀ i, (follow^[count] positions).testBit i = true → i ≤ limit := by
        intro i hi
        obtain ⟨start, hstart, hrounds⟩ := (ih i).mp hi
        exact (hrounds.le hR (hpositions start hstart)).2
      rw [Function.iterate_succ_apply', hfollow _ hbounded]
      simp only [ih, rounds_succ]
      constructor
      · rintro ⟨k, ⟨i, hi, hrounds⟩, hlast⟩
        exact ⟨i, hi, k, hrounds, hlast⟩
      · rintro ⟨i, hi, k, hrounds, hlast⟩
        exact ⟨k, ⟨i, hi, hrounds⟩, hlast⟩

lemma LeadsTo.upTo (count : Nat) :
    LeadsTo limit (fun i j => ∃ more ≤ count, Rounds R more i j) (upTo follow count) := by
  intro positions hpositions j
  rw [upTo_eq_iterate]
  induction count generalizing j with
  | zero => simp [Rounds]
  | succ count ih =>
      have hbounded : ∀ i,
          ((fun found => found ||| follow found)^[count] positions).testBit i = true →
            i ≤ limit := by
        intro i hi
        obtain ⟨start, hstart, more, -, hrounds⟩ := (ih i).mp hi
        exact (hrounds.le hR (hpositions start hstart)).2
      rw [Function.iterate_succ_apply', Nat.testBit_lor, Bool.or_eq_true, hfollow _ hbounded]
      simp only [ih]
      constructor
      · rintro (⟨i, hi, more, hmore, hrounds⟩ | ⟨k, ⟨i, hi, more, hmore, hrounds⟩, hlast⟩)
        · exact ⟨i, hi, more, by omega, hrounds⟩
        · exact ⟨i, hi, more + 1, by omega, (rounds_succ more i j).mpr ⟨k, hrounds, hlast⟩⟩
      · rintro ⟨i, hi, more, hmore, hrounds⟩
        rcases hmore.lt_or_eq with hlt | rfl
        · exact .inl ⟨i, hi, more, by omega, hrounds⟩
        · obtain ⟨k, hrounds, hlast⟩ := (rounds_succ count i j).mp hrounds
          exact .inr ⟨k, ⟨i, hi, count, le_refl count, hrounds⟩, hlast⟩

/-- **A repetition**: without an upper bound, as many rounds as there are positions are enough. -/
lemma LeadsTo.times (least : Nat) (most : Option Nat) :
    LeadsTo limit
      (fun i j => ∃ more, (∀ m ∈ most, more ≤ m - least) ∧ Rounds R (least + more) i j)
      fun positions => Regex.upTo follow (match most with
        | some most => most - least
        | none => limit + 1) (Regex.exactly follow least positions) := by
  intro positions hpositions j
  have hbounded : ∀ i, (Regex.exactly follow least positions).testBit i = true → i ≤ limit := by
    intro i hi
    obtain ⟨start, hstart, hrounds⟩ := (hfollow.exactly hR least positions hpositions i).mp hi
    exact (hrounds.le hR (hpositions start hstart)).2
  rw [hfollow.upTo hR _ _ hbounded]
  simp only [hfollow.exactly hR least positions hpositions, rounds_add]
  constructor
  · rintro ⟨k, ⟨i, hi, hfirst⟩, more, hmore, hrest⟩
    refine ⟨i, hi, more, ?_, k, hfirst, hrest⟩
    rintro m hm
    rw [Option.mem_def] at hm
    subst hm
    exact hmore
  · rintro ⟨i, hi, more, hmore, k, hfirst, hrest⟩
    have hk := hfirst.le hR (hpositions i hi)
    cases most with
    | some m => exact ⟨k, ⟨i, hi, hfirst⟩, more, hmore m rfl, hrest⟩
    | none =>
        obtain ⟨fewer, hfewer, hrounds⟩ := hrest.shorten hR hk.2
        have hj := hrest.le hR hk.2
        have hfew : fewer ≤ limit + 1 := by omega
        exact ⟨k, ⟨i, hi, hfirst⟩, fewer, hfew, hrounds⟩

end Following

/-- **The positions that are followed** from a set of positions are the ends of the matches that
start there. -/
theorem testBit_ends (r : Regex) (text : List Char) :
    LeadsTo text.length (Matches text r) (ends (text.length + 1) (r.plan text)) := by
  induction r with
  | empty =>
      intro positions _ j
      simp [plan, Expr.map, ends, Matches]
  | step s =>
      intro positions _ j
      simp only [plan, Expr.map, ends, Matches, Nat.testBit_shiftLeft, Nat.testBit_and,
        Bool.and_eq_true, decide_eq_true_eq, testBit_stepMask]
      constructor
      · rintro ⟨hj, hi, hc⟩
        exact ⟨j - 1, hi, by omega, hc⟩
      · rintro ⟨i, hi, rfl, hc⟩
        exact ⟨by omega, hi, hc⟩
  | check c =>
      intro positions hpositions j
      simp only [plan, Expr.map, ends, Matches, Check.HoldsAt, Nat.testBit_and, Bool.and_eq_true]
      constructor
      · rintro ⟨hj, hholds⟩
        rw [testBit_checkMask _ _ _ _ (hpositions j hj)] at hholds
        exact ⟨j, hj, rfl, hholds⟩
      · rintro ⟨i, hi, rfl, hholds⟩
        rw [testBit_checkMask _ _ _ _ (hpositions i hi)]
        exact ⟨hi, hholds⟩
  | seq a b iha ihb =>
      intro positions hpositions j
      have hbounded : ∀ k, (ends (text.length + 1) (plan a text) positions).testBit k = true →
          k ≤ text.length := by
        intro k hk
        obtain ⟨i, hi, hmatches⟩ := (iha positions hpositions k).mp hk
        exact (hmatches.le (hpositions i hi)).2
      have hfollow := ihb _ hbounded j
      simp only [iha positions hpositions] at hfollow
      refine hfollow.trans ?_
      constructor
      · rintro ⟨k, ⟨i, hi, ha⟩, hb⟩
        exact ⟨i, hi, k, ha, hb⟩
      · rintro ⟨i, hi, k, ha, hb⟩
        exact ⟨k, ⟨i, hi, ha⟩, hb⟩
  | alt a b iha ihb =>
      intro positions hpositions j
      have hor : (ends (text.length + 1) (plan (.alt a b) text) positions).testBit j =
          ((ends (text.length + 1) (plan a text) positions).testBit j ||
            (ends (text.length + 1) (plan b text) positions).testBit j) :=
        Nat.testBit_lor _ _ _
      rw [hor, Bool.or_eq_true, iha positions hpositions, ihb positions hpositions]
      simp only [Matches, and_or_left, exists_or]
  | group captures a ih => exact ih
  | times a least most lazily ih =>
      exact LeadsTo.times ih (fun i j hi hmatches => hmatches.le hi) least most

/-- **Whether there is a match anywhere** is what the matcher finds out. -/
theorem matchesSomewhere_iff (r : Regex) (text : List Char) :
    r.matchesSomewhere text = true ↔ ∃ i j, i ≤ text.length ∧ Matches text r i j := by
  have hall : ∀ i, (Nat.pow 2 (text.length + 1) - 1).testBit i = true ↔ i ≤ text.length := by
    intro i
    rw [Nat.pow_eq, Nat.testBit_two_pow_sub_one, decide_eq_true_iff, Nat.lt_succ_iff]
  have hends := testBit_ends r text _ fun i hi => (hall i).mp hi
  simp only [hall] at hends
  rw [matchesSomewhere, bne_iff_ne]
  constructor
  · intro hne
    obtain ⟨j, hj⟩ := Nat.exists_testBit_of_ne_zero hne
    obtain ⟨i, hi, hmatches⟩ := (hends j).mp hj
    exact ⟨i, j, hi, hmatches⟩
  · rintro ⟨i, j, hi, hmatches⟩ hzero
    have hj := (hends j).mpr ⟨i, hi, hmatches⟩
    rw [hzero, Nat.zero_testBit] at hj
    cases hj

end Regex

end DataShape
