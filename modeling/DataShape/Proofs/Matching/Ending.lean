import Mathlib.Data.List.Basic
import DataShape.Proofs.Matching.Walk

/-!
# How walks end

A walk is stopped by a violation, or ends with a verdict.  For every way of putting walks together
these lemmas say when the whole is stopped and when it ends with a fit, in terms of the parts and
without their order: a row or a choice of walks is stopped if any one of them is.

* `Walk.Stopped`, `Walk.Fits` — the ends of a walk.
* `Walk.stopped_all`, `Walk.fits_all` — walks in a row.
* `Walk.stopped_anyOf`, `Walk.fits_anyOf` — alternatives.
* `Walk.stopped_sequence`, `Walk.stopped_record` — arrays and maps.
-/

namespace DataShape

namespace Walk

/-! ## Rows and alternatives -/

/-- The walk was stopped by a violation. -/
def Stopped (w : Walk) : Prop := ∃ stop, w.ending = .error stop

/-- The walk ended with a fit. -/
def Fits (w : Walk) : Prop := w.ending = .ok true

@[simp] lemma fits_pass : Fits pass := rfl

@[simp] lemma not_stopped_pass : ¬ Stopped pass := by
  rintro ⟨stop, ⟨⟩⟩

@[simp] lemma not_fits_miss (m : Mismatch) : ¬ Fits (miss m) := by
  rintro ⟨⟩

@[simp] lemma not_stopped_miss (m : Mismatch) : ¬ Stopped (miss m) := by
  rintro ⟨stop, ⟨⟩⟩

@[simp] lemma stopped_under (step : Segment) (w : Walk) : Stopped (w.under step) ↔ Stopped w := by
  rw [Stopped, Stopped, under]
  cases w.ending <;> simp [Except.mapError]

@[simp] lemma fits_under (step : Segment) (w : Walk) : Fits (w.under step) ↔ Fits w := by
  rw [Fits, Fits, under]
  cases w.ending <;> simp [Except.mapError]

lemma stopped_andThen (first second : Walk) :
    Stopped (first.andThen second) ↔ Stopped first ∨ Stopped second := by
  rw [Stopped, Stopped, Stopped, andThen]
  cases hfirst : first.ending with
  | error stop => simp [hfirst]
  | ok verdict => cases second.ending <;> simp [Except.map]

lemma fits_andThen (first second : Walk) :
    Fits (first.andThen second) ↔ Fits first ∧ Fits second := by
  rw [Fits, Fits, Fits, andThen]
  cases hfirst : first.ending with
  | error stop => simp [hfirst]
  | ok verdict => cases second.ending <;> simp [Except.map]

/-- A row of walks is stopped if one of them is. -/
lemma stopped_all (walks : List Walk) : Stopped (all walks) ↔ ∃ w ∈ walks, Stopped w := by
  induction walks with
  | nil => simp
  | cons w rest ih => rw [all_cons, stopped_andThen, ih, List.exists_mem_cons_iff]

/-- A row of walks ends with a fit if all of them do. -/
lemma fits_all (walks : List Walk) : Fits (all walks) ↔ ∀ w ∈ walks, Fits w := by
  induction walks with
  | nil => simp
  | cons w rest ih => rw [all_cons, fits_andThen, ih, List.forall_mem_cons]

/-- Trying alternatives is stopped if one of them is. -/
lemma tried_eq_error_iff (walks : List Walk) :
    (∃ violation, tried walks = .error violation) ↔ ∃ w ∈ walks, Stopped w := by
  induction walks with
  | nil => simp [tried]
  | cons w rest ih =>
      rw [List.exists_mem_cons_iff, ← ih, tried, Stopped]
      cases w.ending with
      | error stop => simp
      | ok verdict => cases tried rest <;> simp [Except.map]

/-- Alternatives that were tried to the end fit if one of them does. -/
lemma tried_eq_ok {walks : List Walk} {verdict : Bool} (h : tried walks = .ok verdict) :
    verdict = true ↔ ∃ w ∈ walks, Fits w := by
  induction walks generalizing verdict with
  | nil => simp [Except.ok.inj h.symm]
  | cons w rest ih =>
      rw [tried] at h
      rw [List.exists_mem_cons_iff, Fits]
      cases hw : w.ending with
      | error stop => simp [hw] at h
      | ok first =>
          cases hrest : tried rest with
          | error violation => simp [hw, hrest, Except.map] at h
          | ok others =>
              simp only [hw, hrest, Except.map, Except.ok.injEq] at h
              rw [← ih hrest, ← h, Except.ok.injEq, Bool.or_eq_true]

/-- Alternatives are stopped if one of them is, even if another one fits. -/
lemma stopped_anyOf (rejection : Mismatch) (walks : List Walk) :
    Stopped (anyOf rejection walks) ↔ ∃ w ∈ walks, Stopped w := by
  rw [← tried_eq_error_iff, anyOf]
  cases tried walks with
  | error violation => simp [Stopped]
  | ok verdict => cases verdict <;> simp

/-- Alternatives fit if one of them does, as long as none is stopped. -/
lemma fits_anyOf (rejection : Mismatch) (walks : List Walk) :
    Fits (anyOf rejection walks) ↔ (¬ ∃ w ∈ walks, Stopped w) ∧ ∃ w ∈ walks, Fits w := by
  rw [← tried_eq_error_iff, anyOf]
  cases htried : tried walks with
  | error violation => simp [Fits]
  | ok verdict =>
      rw [← tried_eq_ok htried]
      cases verdict <;> simp

/-- Alternatives that are not stopped find nothing, or one mismatch for all. -/
lemma anyOf_eq_of_not_stopped {rejection : Mismatch} {walks : List Walk}
    (h : ¬ Stopped (anyOf rejection walks)) :
    anyOf rejection walks = pass ∨ anyOf rejection walks = miss rejection := by
  rw [anyOf] at h ⊢
  cases htried : tried walks with
  | error violation => simp [htried, Stopped] at h
  | ok verdict => cases verdict <;> simp

/-- Walks that are stopped alike and fit alike have the same verdict. -/
lemma toOption_ending_eq {w other : Walk} (hstopped : Stopped w ↔ Stopped other)
    (hfits : Fits w ↔ Fits other) : w.ending.toOption = other.ending.toOption := by
  rw [Stopped, Stopped] at hstopped
  rw [Fits, Fits] at hfits
  cases hw : w.ending with
  | error stop =>
      obtain ⟨second, hsecond⟩ := hstopped.mp ⟨stop, hw⟩
      rw [hsecond]
      rfl
  | ok verdict =>
      cases hother : other.ending with
      | error second =>
          obtain ⟨stop, hstop⟩ := hstopped.mpr ⟨second, hother⟩
          cases hw.symm.trans hstop
      | ok next =>
          rw [hw, hother, Except.ok.injEq, Except.ok.injEq] at hfits
          rw [Bool.eq_iff_iff.mpr hfits]

/-! ## Single places -/

/-- A place that a condition decides on does not stop the walk. -/
lemma not_stopped_ite (c : Prop) [Decidable c] (m : Mismatch) :
    ¬ Stopped (if c then pass else miss m) := by
  split_ifs <;> simp

lemma fits_ite (c : Prop) [Decidable c] (m : Mismatch) :
    Fits (if c then pass else miss m) ↔ c := by
  split_ifs with h <;> simp [h]

lemma not_stopped_exact (kind : Kind) (v : Value) : ¬ Stopped (exact kind v) :=
  not_stopped_ite _ _

lemma fits_exact (kind : Kind) (v : Value) : Fits (exact kind v) ↔ v.kind = kind := fits_ite _ _

lemma not_stopped_literal (expected v : Value) : ¬ Stopped (literal expected v) :=
  not_stopped_ite _ _

lemma fits_literal (expected v : Value) :
    Fits (literal expected v) ↔ v.equal expected = true := fits_ite _ _

lemma stopped_pattern (p : Pattern) (v : Value) :
    Stopped (pattern p v) ↔ ∀ text, v ≠ .text text := by
  cases v with
  | text text => exact iff_of_false (not_stopped_ite _ _) fun h => h text rfl
  | _ => simp [pattern, Value.text?, stop, Stopped]

lemma fits_pattern (p : Pattern) (v : Value) :
    Fits (pattern p v) ↔ ∃ text, v = .text text ∧ p.isMatch text = true := by
  cases v with
  | text text => exact (fits_ite (p.isMatch text = true) _).trans (by simp)
  | _ => simp [pattern, Value.text?, stop, Fits]

/-! ## Arrays and maps -/

lemma stopped_items (item : Value → Walk) (parts : List Value) :
    (∃ w ∈ items item parts, Stopped w) ↔ ∃ part ∈ parts, Stopped (item part) := by
  conv_rhs => rw [← List.zipIdx_map_fst 0 parts]
  simp only [items, List.mem_map, exists_exists_and_eq_and, stopped_under]

lemma fits_items (item : Value → Walk) (parts : List Value) :
    (∀ w ∈ items item parts, Fits w) ↔ ∀ part ∈ parts, Fits (item part) := by
  conv_rhs => rw [← List.zipIdx_map_fst 0 parts]
  simp only [items, List.forall_mem_map, fits_under]

/-- Only an item stops the walk of an array. -/
lemma stopped_sequence (item : Value → Walk) (v : Value) :
    Stopped (sequence item v) ↔
      ∃ parts, v = .array parts ∧ ∃ part ∈ parts, Stopped (item part) := by
  cases v with
  | array parts => rw [sequence, stopped_all, stopped_items]; simp
  | _ => simp [sequence, wrongKind]

lemma fits_sequence (item : Value → Walk) (v : Value) :
    Fits (sequence item v) ↔ ∃ parts, v = .array parts ∧ ∀ part ∈ parts, Fits (item part) := by
  cases v with
  | array parts => rw [sequence, fits_all, fits_items]; simp
  | _ => simp [sequence, wrongKind]

@[simp] lemma not_stopped_expectedKey (isDeclared : Bool) (key : String) :
    ¬ Stopped (expectedKey isDeclared key) := by
  cases isDeclared <;> simp [expectedKey]

@[simp] lemma fits_expectedKey (isDeclared : Bool) (key : String) :
    Fits (expectedKey isDeclared key) ↔ isDeclared = true := by
  cases isDeclared <;> simp [expectedKey]

@[simp] lemma not_stopped_presentField (isRequired isPresent : Bool) (name : String) :
    ¬ Stopped (presentField isRequired isPresent name) := by
  rw [presentField]
  split_ifs <;> simp

@[simp] lemma fits_presentField (isRequired isPresent : Bool) (name : String) :
    Fits (presentField isRequired isPresent name) ↔ (isRequired = true → isPresent = true) := by
  rw [presentField]
  split_ifs <;> simp_all

@[simp] lemma stopped_fieldValue (part : Option (Value → Walk)) (key : String) (v : Value) :
    Stopped (fieldValue part key v) ↔ ∃ walk, part = some walk ∧ Stopped (walk v) := by
  cases part <;> simp [fieldValue]

@[simp] lemma fits_fieldValue (part : Option (Value → Walk)) (key : String) (v : Value) :
    Fits (fieldValue part key v) ↔ ∀ walk, part = some walk → Fits (walk v) := by
  cases part <;> simp [fieldValue]

variable (declared : Matching.Declarations) (field : String → Option (Value → Walk))

/-- Only the value of a declared key stops the walk of a map. -/
lemma stopped_record (v : Value) :
    Stopped (record declared field v) ↔ ∃ entries, v = .map entries ∧
      ∃ entry ∈ entries, ∃ part, field entry.1.normalized = some part ∧ Stopped (part entry.2) := by
  cases v with
  | map entries =>
      rw [record, stopped_all]
      simp only [List.mem_append, or_and_right, exists_or, expectedKeys, presentFields,
        fieldValues, Value.byName, List.map_map, List.mem_map, exists_exists_and_eq_and,
        Function.comp_apply, not_stopped_expectedKey, not_stopped_presentField,
        stopped_fieldValue]
      simp
  | _ => simp [record, wrongKind]

lemma fits_record (v : Value) :
    Fits (record declared field v) ↔ ∃ entries, v = .map entries ∧
      (∀ entry ∈ entries, ∃ part, field entry.1.normalized = some part) ∧
      (∀ entry ∈ declared, entry.2 = true →
        ∃ present ∈ entries, present.1.normalized = entry.1) ∧
      (∀ entry ∈ entries, ∀ part, field entry.1.normalized = some part → Fits (part entry.2)) := by
  cases v with
  | map entries =>
      rw [record, fits_all, List.forall_mem_append, List.forall_mem_append, and_assoc]
      simp only [expectedKeys, presentFields, fieldValues, Value.byName, List.map_map,
        List.forall_mem_map, Function.comp_apply, fits_expectedKey, fits_presentField,
        fits_fieldValue, Option.isSome_iff_exists, List.contains_iff_mem]
      simp
  | _ => simp [record, wrongKind]

end Walk

end DataShape
