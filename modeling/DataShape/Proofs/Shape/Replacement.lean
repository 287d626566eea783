import DataShape.Proofs.Entries
import DataShape.Proofs.Matching.Conformance
import DataShape.Proofs.Text.Quoted
import DataShape.Proofs.Value.Equality

/-!
# Replacing a part of a shape

A shape can be a part of larger ones: of a sequence, as a field of a record, as an alternative of a
union, or inside an optional shape.  A part that accepts more does not by itself make the whole
accept more.  If it is violated where the old part was not, the violation outweighs whatever fits
beside it; and if it must be present where the old part may be absent, a record gets stricter.  With
both ruled out, the order of shapes goes from the part to the whole, at any depth.

Shapes are compared on the values in which no map repeats a key, and these are all there are: a part
of such a value is one again, so the order passes through sequences and records.  It matters for
which shapes agree.  A union can be taken out of the only field of a record because a map has one
entry for the field.

* `Shape.Covers` — a shape accepts at least what another one does.
* `Shape.Context` — a shape with one part left open.
* `Shape.agrees_union_of_records` — a union as the only field of a record, and a union of records.
* `Shape.covers_fill` — **what covers a part covers the whole**, and what agrees with a part may
  stand in its place.
-/

namespace DataShape

/-- A name that begins like no number, and is no truth value, is the name of a text only. -/
lemma Key.eq_text_of_normalized_eq {key : Key} {name : String} {c : Char} {cs : List Char}
    (hname : name.toList = c :: cs) (hc : c ≠ '-' ∧ c.isDigit = false)
    (hflag : ∀ b, flagText b ≠ name) (h : key.normalized = name) : key = .text name := by
  cases key with
  | text s => exact congrArg Key.text h
  | number n =>
      obtain ⟨first, rest, hchars, hfirst⟩ := Decimal.exists_integerChars_eq_cons n
      have hsame : c :: cs = first :: rest := by
        rw [← hname, ← h, ← hchars]
        exact String.toList_ofList
      rw [(List.cons.inj hsame).1] at hc
      simp [hc] at hfirst
  | flag b => exact absurd h (hflag b)

namespace Shape

/-- The shape accepts at least what the other does: it fits every value that the other fits, has a
verdict about every value that the other has one about, and may be absent where the other may. -/
structure Covers (shape other : Shape) : Prop where
  fits : ∀ v : Value, v.WellFormed →
    other.accepts v .usual = .ok true → shape.accepts v .usual = .ok true
  applies : ∀ v : Value, v.WellFormed → ∀ verdict, other.accepts v .usual = .ok verdict →
    ∃ verdict, shape.accepts v .usual = .ok verdict
  isRequired : shape.isRequired = true → other.isRequired = true

/-- Both shapes accept the same values, are violated by the same values, and may be absent alike. -/
structure Agrees (shape other : Shape) : Prop where
  fits_iff : ∀ v : Value, v.WellFormed →
    (shape.accepts v .usual = .ok true ↔ other.accepts v .usual = .ok true)
  violated_iff : ∀ v : Value, v.WellFormed →
    ((∃ violation, shape.accepts v .usual = .error violation) ↔
      ∃ violation, other.accepts v .usual = .error violation)
  isRequired_eq : shape.isRequired = other.isRequired

/-- A shape with one part left open. -/
inductive Context where
  | hole
  | sequence (item : Context)
  | record (before : List (String × Shape)) (name : String) (field : Context)
    (after : List (String × Shape))
  | union (before : List Shape) (alternative : Context) (after : List Shape)
  | optional (inner : Context)

/-- The whole shape, with a shape for the open part. -/
def Context.fill : Context → Shape → Shape
  | .hole, s => s
  | .sequence item, s => .sequence (item.fill s)
  | .record before name field after, s => .record (before ++ (name, field.fill s) :: after)
  | .union before alternative after, s => .union (before ++ alternative.fill s :: after)
  | .optional inner, s => .optional (inner.fill s)

/-! ## The order of shapes in terms of walks -/

variable {shape other : Shape}

/-- Fits go from the other shape to this one, and violations the other way. -/
lemma covers_iff : shape.Covers other ↔
    (∀ v : Value, v.WellFormed → (other.walk v).Fits → (shape.walk v).Fits) ∧
    (∀ v : Value, v.WellFormed → (shape.walk v).Stopped → (other.walk v).Stopped) ∧
    (shape.isRequired = true → other.isRequired = true) := by
  have hstopped : (∀ v : Value, v.WellFormed → (shape.walk v).Stopped → (other.walk v).Stopped) ↔
      ∀ v : Value, v.WellFormed → ∀ verdict, other.accepts v .usual = .ok verdict →
        ∃ verdict, shape.accepts v .usual = .ok verdict := by
    refine forall₂_congr fun v _ => ?_
    rw [← not_imp_not, ← exists_accepts_eq_ok_iff shape v .usual,
      ← exists_accepts_eq_ok_iff other v .usual, forall_exists_index]
  simp only [hstopped, ← accepts_eq_ok_true_iff _ _ .usual]
  exact ⟨fun h => ⟨h.fits, h.applies, h.isRequired⟩, fun ⟨hfits, happlies, hrequired⟩ =>
    ⟨hfits, happlies, hrequired⟩⟩

lemma agrees_iff : shape.Agrees other ↔ shape.Covers other ∧ other.Covers shape := by
  rw [covers_iff, covers_iff]
  constructor
  · rintro ⟨hfits, hviolated, hrequired⟩
    simp only [accepts_eq_ok_true_iff, exists_accepts_eq_error_iff] at hfits hviolated
    exact ⟨⟨fun v hv => (hfits v hv).mpr, fun v hv => (hviolated v hv).mp,
      fun h => hrequired ▸ h⟩, fun v hv => (hfits v hv).mp, fun v hv => (hviolated v hv).mpr,
      fun h => hrequired ▸ h⟩
  · rintro ⟨⟨hfits, hstopped, hrequired⟩, hfits', hstopped', hrequired'⟩
    refine ⟨fun v hv => ?_, fun v hv => ?_, Bool.eq_iff_iff.mpr ⟨hrequired, hrequired'⟩⟩
    · rw [accepts_eq_ok_true_iff, accepts_eq_ok_true_iff]
      exact ⟨hfits' v hv, hfits v hv⟩
    · rw [exists_accepts_eq_error_iff, exists_accepts_eq_error_iff]
      exact ⟨hstopped v hv, hstopped' v hv⟩

/-- Shapes that agree have the same verdict, with any settings. -/
lemma Agrees.toOption_accepts_eq (h : shape.Agrees other) {v : Value} (hv : v.WellFormed)
    (settings : Settings) :
    (shape.accepts v settings).toOption = (other.accepts v settings).toOption := by
  have hfits := h.fits_iff v hv
  have hviolated := h.violated_iff v hv
  rw [accepts_eq_ok_true_iff, accepts_eq_ok_true_iff] at hfits
  rw [exists_accepts_eq_error_iff, exists_accepts_eq_error_iff] at hviolated
  rw [toOption_accepts, toOption_accepts, Walk.toOption_ending_eq hviolated hfits]

/-! ## One step out -/

/-- In a record with one field left open, a name stands for what is put there, or for another field
whatever is put there, or for none. -/
lemma lookup?_open_field (before after : List (String × Shape)) (name key : String) :
    (∀ s, Entries.lookup? key (before ++ (name, s) :: after) = some s) ∨
      ∃ found, ∀ s, Entries.lookup? key (before ++ (name, s) :: after) = found := by
  simp only [Entries.lookup?_append, Entries.lookup?]
  cases Entries.lookup? key before with
  | some field => exact .inr ⟨some field, fun _ => rfl⟩
  | none =>
      by_cases hname : name = key
      · exact .inl fun s => by rw [if_pos hname, Option.none_or]
      · exact .inr ⟨Entries.lookup? key after, fun s => by rw [if_neg hname, Option.none_or]⟩

/-- Alternatives of which one is replaced. -/
lemma exists_mem_alternatives (P : Walk → Prop) (before after : List Shape) (s : Shape)
    (v : Value) :
    (∃ w ∈ (before ++ s :: after).map fun s => s.walk v, P w) ↔
      (∃ w ∈ before.map fun s => s.walk v, P w) ∨ P (s.walk v) ∨
        ∃ w ∈ after.map fun s => s.walk v, P w := by
  simp only [List.map_append, List.map_cons, List.mem_append, List.mem_cons, or_and_right,
    exists_or, exists_eq_left]

namespace Covers

lemma sequence (h : shape.Covers other) : Covers (.sequence shape) (.sequence other) := by
  obtain ⟨hfits, hstopped, -⟩ := covers_iff.mp h
  refine covers_iff.mpr ⟨fun v hv => ?_, fun v hv => ?_, id⟩
  · rw [walk_sequence, walk_sequence, Walk.fits_sequence, Walk.fits_sequence]
    rintro ⟨parts, rfl, hparts⟩
    rw [Value.wellFormed_array_iff] at hv
    exact ⟨parts, rfl, fun part hpart => hfits part (hv part hpart) (hparts part hpart)⟩
  · rw [walk_sequence, walk_sequence, Walk.stopped_sequence, Walk.stopped_sequence]
    rintro ⟨parts, rfl, part, hpart, hpartStopped⟩
    rw [Value.wellFormed_array_iff] at hv
    exact ⟨parts, rfl, part, hpart, hstopped part (hv part hpart) hpartStopped⟩

lemma record (h : shape.Covers other) (before : List (String × Shape)) (name : String)
    (after : List (String × Shape)) :
    Covers (.record (before ++ (name, shape) :: after))
      (.record (before ++ (name, other) :: after)) := by
  obtain ⟨hfits, hstopped, hrequired⟩ := covers_iff.mp h
  refine covers_iff.mpr ⟨fun v hv => ?_, fun v hv => ?_, id⟩
  · rw [walk_record, walk_record, Walk.fits_record, Walk.fits_record]
    rintro ⟨entries, rfl, hkeys, hfields, hparts⟩
    rw [Value.wellFormed_map_iff] at hv
    refine ⟨entries, rfl, fun entry hentry => ?_, fun field hfield hpresent => ?_,
      fun entry hentry part hpart => ?_⟩
    · obtain ⟨part, hpart⟩ := hkeys entry hentry
      rcases lookup?_open_field before after name entry.1.normalized with hopen | ⟨found, hfound⟩
      · exact ⟨shape.walk, by rw [hopen, Option.map_some]⟩
      · exact ⟨part, by rwa [hfound] at hpart ⊢⟩
    · -- If the open field is required now, it was required before.
      simp only [List.map_append, List.map_cons, List.mem_append, List.mem_cons] at hfields hfield
      rcases hfield with hfield | rfl | hfield
      · exact hfields field (.inl hfield) hpresent
      · exact hfields (name, other.isRequired) (.inr (.inl rfl)) (hrequired hpresent)
      · exact hfields field (.inr (.inr hfield)) hpresent
    · have hother := hparts entry hentry
      rcases lookup?_open_field before after name entry.1.normalized with hopen | ⟨found, hfound⟩
      · rw [hopen, Option.map_some, Option.some.injEq] at hpart
        rw [← hpart]
        exact hfits _ (hv.2 entry hentry) (hother other.walk (by rw [hopen, Option.map_some]))
      · rw [hfound] at hpart hother
        exact hother part hpart
  · rw [walk_record, walk_record, Walk.stopped_record, Walk.stopped_record]
    rintro ⟨entries, rfl, entry, hentry, part, hpart, hpartStopped⟩
    rw [Value.wellFormed_map_iff] at hv
    rcases lookup?_open_field before after name entry.1.normalized with hopen | ⟨found, hfound⟩
    · rw [hopen, Option.map_some, Option.some.injEq] at hpart
      rw [← hpart] at hpartStopped
      exact ⟨entries, rfl, entry, hentry, other.walk, by rw [hopen, Option.map_some],
        hstopped _ (hv.2 entry hentry) hpartStopped⟩
    · rw [hfound] at hpart
      exact ⟨entries, rfl, entry, hentry, part, by rw [hfound, hpart], hpartStopped⟩

lemma union (h : shape.Covers other) (before after : List Shape) :
    Covers (.union (before ++ shape :: after)) (.union (before ++ other :: after)) := by
  obtain ⟨hfits, hstopped, -⟩ := covers_iff.mp h
  have hopen : ∀ v : Value, v.WellFormed →
      (∃ w ∈ (before ++ shape :: after).map fun s => s.walk v, w.Stopped) →
        ∃ w ∈ (before ++ other :: after).map fun s => s.walk v, w.Stopped := by
    intro v hv
    rw [exists_mem_alternatives, exists_mem_alternatives]
    exact Or.imp_right (Or.imp_left (hstopped v hv))
  refine covers_iff.mpr ⟨fun v hv => ?_, fun v hv => ?_, id⟩
  · rw [walk_union, walk_union, Walk.fits_anyOf, Walk.fits_anyOf]
    rintro ⟨hnone, hsome⟩
    refine ⟨fun h => hnone (hopen v hv h), ?_⟩
    rw [exists_mem_alternatives] at hsome ⊢
    exact hsome.imp_right (Or.imp_left (hfits v hv))
  · rw [walk_union, walk_union, Walk.stopped_anyOf, Walk.stopped_anyOf]
    exact hopen v hv

lemma optional (h : shape.Covers other) : Covers (.optional shape) (.optional other) := by
  obtain ⟨hfits, hstopped, -⟩ := covers_iff.mp (h.union [] [.exact .null])
  refine covers_iff.mpr ⟨fun v hv => ?_, fun v hv => ?_, id⟩
  · rw [walk_optional_eq_union, walk_optional_eq_union]
    exact hfits v hv
  · rw [walk_optional_eq_union, walk_optional_eq_union]
    exact hstopped v hv

/-- From the open part to the whole, one step after the other. -/
lemma fill (h : shape.Covers other) (context : Context) :
    (context.fill shape).Covers (context.fill other) := by
  induction context with
  | hole => exact h
  | sequence item ih => exact ih.sequence
  | record before name field after ih => exact ih.record before name after
  | union before alternative after ih => exact ih.union before after
  | optional inner ih => exact ih.optional

end Covers

/-! ## A union in a record -/

/-- Only the value of the field stops the walk of a record with one field. -/
lemma stopped_record_single (name : String) (s : Shape) (v : Value) :
    (walk (.record [(name, s)]) v).Stopped ↔ ∃ entries, v = .map entries ∧
      ∃ entry ∈ entries, entry.1.normalized = name ∧ (s.walk entry.2).Stopped := by
  rw [walk_record, Walk.stopped_record]
  simp [Entries.lookup?, eq_comm]

/-- A record whose one field must be present fits the maps with one entry, if only a text has the
name of the field. -/
lemma fits_record_single {name : String}
    (hname : ∀ key : Key, key.normalized = name → key = .text name) {s : Shape}
    (hs : s.isRequired = true) {v : Value} (hv : v.WellFormed) :
    (walk (.record [(name, s)]) v).Fits ↔
      ∃ part, v = .map [(.text name, part)] ∧ (s.walk part).Fits := by
  rw [walk_record, Walk.fits_record]
  constructor
  · rintro ⟨entries, rfl, hkeys, hfields, hparts⟩
    rw [Value.wellFormed_map_iff] at hv
    have hkey : ∀ entry ∈ entries, entry.1 = .text name := by
      intro entry hentry
      obtain ⟨part, hpart⟩ := hkeys entry hentry
      by_cases hsame : name = entry.1.normalized
      · exact hname _ hsame.symm
      · simp [Entries.lookup?, hsame] at hpart
    obtain ⟨⟨key, part⟩, hentry, -⟩ := hfields (name, s.isRequired) List.mem_cons_self hs
    obtain rfl : key = .text name := hkey _ hentry
    have hsingle := Entries.eq_singleton_of_keys hv.1 hentry hkey
    refine ⟨part, by rw [hsingle], hparts _ hentry s.walk ?_⟩
    simp [Entries.lookup?, Key.normalized]
  · rintro ⟨part, rfl, hpart⟩
    refine ⟨_, rfl, ?_⟩
    simp [Entries.lookup?, Key.normalized, hpart]

/-- **A union can be taken out of the only field of a record**, if its alternatives must be present
and only a text has the name of the field. -/
lemma agrees_union_of_records {name : String}
    (hname : ∀ key : Key, key.normalized = name → key = .text name) {alternatives : List Shape}
    (hrequired : ∀ s ∈ alternatives, s.isRequired = true) :
    Agrees (.record [(name, .union alternatives)])
      (.union (alternatives.map fun s => .record [(name, s)])) := by
  have hstopped : ∀ v, (walk (.record [(name, .union alternatives)]) v).Stopped ↔
      ∃ s ∈ alternatives, (walk (.record [(name, s)]) v).Stopped := by
    intro v
    simp only [stopped_record_single, walk_union, Walk.stopped_anyOf, List.mem_map,
      exists_exists_and_eq_and]
    constructor
    · rintro ⟨entries, hv, entry, hentry, hnamed, s, hs, hpart⟩
      exact ⟨s, hs, entries, hv, entry, hentry, hnamed, hpart⟩
    · rintro ⟨s, hs, entries, hv, entry, hentry, hnamed, hpart⟩
      exact ⟨entries, hv, entry, hentry, hnamed, s, hs, hpart⟩
  refine ⟨fun v hv => ?_, fun v hv => ?_, rfl⟩
  · have hfits : ∀ s ∈ alternatives, (walk (.record [(name, s)]) v).Fits ↔
        ∃ part, v = .map [(.text name, part)] ∧ (s.walk part).Fits :=
      fun s hs => fits_record_single hname (hrequired s hs) hv
    rw [accepts_eq_ok_true_iff, accepts_eq_ok_true_iff, fits_record_single hname rfl hv]
    simp only [walk_union, Walk.fits_anyOf, List.map_map, List.mem_map, Function.comp_apply,
      exists_exists_and_eq_and]
    constructor
    · rintro ⟨part, rfl, hnone, s, hs, hpart⟩
      refine ⟨?_, s, hs, (hfits s hs).mpr ⟨part, rfl, hpart⟩⟩
      simpa [stopped_record_single, Key.normalized] using hnone
    · rintro ⟨hnone, s, hs, hrecord⟩
      obtain ⟨part, rfl, hpart⟩ := (hfits s hs).mp hrecord
      refine ⟨part, rfl, ?_, s, hs, hpart⟩
      simpa [stopped_record_single, Key.normalized] using hnone
  · rw [exists_accepts_eq_error_iff, exists_accepts_eq_error_iff, hstopped]
    simp only [walk_union, Walk.stopped_anyOf, List.map_map, List.mem_map, Function.comp_apply,
      exists_exists_and_eq_and]

/-! ## At any depth -/

/-- **What covers a part covers the whole**, wherever in the shape the part stands.  Hence shapes
that agree can be put in each other's place: no verdict changes, with any settings. -/
theorem covers_fill (context : Context) (shape other : Shape) :
    (shape.Covers other → (context.fill shape).Covers (context.fill other)) ∧
    (shape.Agrees other → (context.fill shape).Agrees (context.fill other) ∧
      ∀ v : Value, v.WellFormed → ∀ settings,
        ((context.fill shape).accepts v settings).toOption =
          ((context.fill other).accepts v settings).toOption) := by
  refine ⟨fun h => h.fill context, fun h => ?_⟩
  obtain ⟨hcovers, hcovered⟩ := agrees_iff.mp h
  have hfill : (context.fill shape).Agrees (context.fill other) :=
    agrees_iff.mpr ⟨hcovers.fill context, hcovered.fill context⟩
  exact ⟨hfill, fun v hv settings => hfill.toOption_accepts_eq hv settings⟩

/-- A note that may be absent, in the items of a sequence.  In its place there are every value for
the texts, and a union of records for a record with a union. -/
theorem covers_fill_of_note :
    let context := Context.sequence (.record [("id", .exact .integer)] "note" (.optional .hole) [])
    let joined := record [("a", .union [.exact .integer, .exact .text])]
    let split := union [.record [("a", .exact .integer)], .record [("a", .exact .text)]]
    let note := Value.map [(.text "a", .null)]
    let v := Value.array [.map [(.text "id", .integer 1), (.text "note", note)]]
    (Covers .any (.exact .text) ∧ (context.fill .any).Covers (context.fill (.exact .text))) ∧
    joined.Agrees split ∧ (context.fill joined).Agrees (context.fill split) ∧
      v.WellFormed ∧ ((context.fill joined).accepts v .usual).toOption =
        ((context.fill split).accepts v .usual).toOption := by
  intro context joined split note v
  have hcovers : Covers .any (.exact .text) :=
    ⟨fun _ _ _ => rfl, fun _ _ _ _ => ⟨true, rfl⟩, id⟩
  have hname : ∀ key : Key, key.normalized = "a" → key = .text "a" := fun key =>
    Key.eq_text_of_normalized_eq (show "a".toList = ['a'] from rfl) (by decide) (by decide)
  have hagrees : joined.Agrees split := agrees_union_of_records hname (by simp [isRequired])
  have hv : v.WellFormed := by
    simp [v, note, Value.WellFormed, Value.WellFormedItems, Value.WellFormedEntries, Entries.keys]
  obtain ⟨hfill, hverdict⟩ := (covers_fill context joined split).2 hagrees
  exact ⟨⟨hcovers, (covers_fill context .any (.exact .text)).1 hcovers⟩, hagrees, hfill, hv,
    hverdict v hv .usual⟩

end Shape

end DataShape
