import DataShape.Proofs.Matching.Ending
import DataShape.Proofs.Matching.Verdict

/-!
# What a match lists

As long as no violation stops a match, what it finds can be read off the shape and the value part
by part: an array lists what its items list, in their order; a map lists its undeclared keys first,
then the required fields it lacks, then what its declared values list; alternatives list nothing
if one of them lists nothing, and else one mismatch for all; any other place lists at most one
mismatch of its own.

* `Findings.sequence`, `Findings.record`, `Findings.anyOf` — arrays, maps and alternatives.
* `Shape.findings` — what a shape and a value list.
* `Shape.found_walk` — **a walk that is not stopped finds what the shape and the value list.**
* `Shape.validate_eq_of_not_stopped` — a validation brings out just that.
-/

namespace DataShape

namespace Findings

/-! ## Rules -/

/-- The findings of parts, one part after the other. -/
def ofParts (parts : List (Segment × Findings)) : Findings :=
  parts.flatMap fun part => part.2.under part.1

/-- One mismatch of the place itself. -/
def single (m : Mismatch) : Findings := [([], m)]

/-- A value of the wrong kind. -/
def wrongKind (v : Value) (kind : Kind) : Findings := single (.wrongKind v.inspect kind.name)

/-- One kind. -/
def exact (kind : Kind) (v : Value) : Findings := if v.kind = kind then [] else wrongKind v kind

/-- A scalar literal. -/
def literal (expected v : Value) : Findings :=
  if v.equal expected then [] else single (.unequal v.inspect expected.inspect)

/-- A pattern; a value that is not text is not for it to judge. -/
def pattern (p : Pattern) (v : Value) : Findings :=
  match v.text? with
  | none => []
  | some s => if p.isMatch s then [] else single (.unmatchedPattern v.inspect p.text)

/-- Alternatives: nothing if one of them lists nothing, else one mismatch for all. -/
def anyOf (rejection : Mismatch) (alternatives : List Findings) : Findings :=
  if alternatives.any (·.isEmpty) then [] else single rejection

/-- A sequence: an array lists its items by position. -/
def sequence (item : Value → Findings) (v : Value) : Findings :=
  match v with
  | .array parts => ofParts (parts.zipIdx.map fun part => (.index part.2, item part.1))
  | _ => wrongKind v .array

section Record

variable (declared : Matching.Declarations) (field : String → Option (Value → Findings))
  (present : Entries String Value)

/-- The keys of a map that are not declared. -/
def undeclared : List (Segment × Findings) :=
  present.filterMap fun entry =>
    if (field entry.1).isSome then none
    else some (.key entry.1, single (.undeclaredKey entry.1))

/-- The required fields that are absent from a map. -/
def absent : List (Segment × Findings) :=
  declared.filterMap fun entry =>
    if entry.2 && !(Entries.keys present).contains entry.1 then
      some (.key entry.1, single (.absentKey entry.1))
    else none

/-- The values of a map whose keys are declared. -/
def fieldValues : List (Segment × Findings) :=
  present.filterMap fun entry => (field entry.1).map fun part => (.key entry.1, part entry.2)

/-- A record: the undeclared keys of a map, the required fields that are absent, and the values of
the declared fields. -/
def record (v : Value) : Findings :=
  match v with
  | .map entries =>
    ofParts (undeclared field (Value.byName entries) ++ absent declared (Value.byName entries) ++
      fieldValues field (Value.byName entries))
  | _ => wrongKind v .map

end Record

/-- The reading of shapes as lists of what they find. -/
def reading : Reading Findings where
  exact := exact
  sequence := sequence
  record := record
  anyOf := anyOf
  any := []
  nothing := single .forbiddenKey
  pattern := pattern
  literal := literal
  emptyTemplate := []

end Findings

namespace Shape

/-- **What a shape and a value list.** -/
def findings (shape : Shape) (v : Value) : Findings := shape.read Findings.reading v

lemma findings_record (fields : List (String × Shape)) (v : Value) :
    findings (.record fields) v =
      .record (fields.map fun field => (field.1, field.2.isRequired))
        (fun name => (Entries.lookup? name fields).map findings) v :=
  read_record Findings.reading fields v

lemma findings_union (alternatives : List Shape) (v : Value) :
    findings (.union alternatives) v =
      .anyOf (.ofAlternatives alternatives v) (alternatives.map fun s => s.findings v) :=
  read_union Findings.reading alternatives v

lemma findings_optional (inner : Shape) (v : Value) :
    findings (.optional inner) v =
      .anyOf (.ofAlternatives [inner, .exact .null] v) [inner.findings v, .exact .null v] := rfl

lemma findings_optional_eq_union (inner : Shape) (v : Value) :
    findings (.optional inner) v = findings (.union [inner, .exact .null]) v := by
  rw [findings_optional, findings_union]
  rfl

lemma findings_scalar {expected : Value} (h : expected.isScalar = true) (v : Value) :
    findings (.literal expected) v = .literal expected v := read_scalar Findings.reading h v

lemma findings_mapTemplate (entries : List (Key × Value)) (v : Value) :
    findings (.literal (.map entries)) v = findings (.record (Value.templateFields entries)) v :=
  read_mapTemplate Findings.reading entries v

end Shape

/-! ## Walks that are not stopped -/

namespace Walk

lemma found_under (step : Segment) (w : Walk) : (w.under step).found = w.found.under step := rfl

lemma found_andThen {first second : Walk} (h : ¬ (first.andThen second).Stopped) :
    (first.andThen second).found = first.found ++ second.found := by
  rw [stopped_andThen, not_or] at h
  cases hfirst : first.ending with
  | error stop => exact absurd ⟨stop, hfirst⟩ h.1
  | ok verdict => rw [andThen_of_ok hfirst]

/-- A row of walks finds what all of them find. -/
lemma found_all {walks : List Walk} (h : ¬ Stopped (all walks)) :
    (all walks).found = walks.flatMap (·.found) := by
  induction walks with
  | nil => rfl
  | cons w rest ih =>
      rw [all_cons] at h
      obtain ⟨-, hrest⟩ := not_or.mp (mt (stopped_andThen w (all rest)).mpr h)
      rw [all_cons, found_andThen h, List.flatMap_cons, ih hrest]

lemma found_exact (kind : Kind) (v : Value) : (exact kind v).found = .exact kind v := by
  rw [exact, Findings.exact]
  split_ifs <;> rfl

lemma found_literal (expected v : Value) : (literal expected v).found = .literal expected v := by
  rw [literal, Findings.literal]
  split_ifs <;> rfl

lemma found_pattern (p : Pattern) (v : Value) : (pattern p v).found = .pattern p v := by
  rw [pattern, Findings.pattern]
  cases v.text? with
  | none => rfl
  | some s =>
      simp only
      split_ifs <;> rfl

/-- A walk in step that was not stopped ends with a fit exactly if it found nothing. -/
lemma InStep.fits_iff {w : Walk} (h : w.InStep) (hopen : ¬ w.Stopped) :
    w.Fits ↔ w.found.isEmpty = true := by
  rw [Fits]
  cases hw : w.ending with
  | error stop => exact absurd ⟨stop, hw⟩ hopen
  | ok verdict => rw [← h verdict hw, Except.ok.injEq]

lemma found_anyOf (rejection : Mismatch) {walks : List Walk} (hsteps : ∀ w ∈ walks, w.InStep)
    (h : ¬ Stopped (anyOf rejection walks)) :
    (anyOf rejection walks).found = .anyOf rejection (walks.map (·.found)) := by
  rw [stopped_anyOf] at h
  have hany : (walks.map (·.found)).any (·.isEmpty) = true ↔ ∃ w ∈ walks, Fits w := by
    rw [List.any_map, List.any_eq_true]
    refine exists_congr fun w => and_congr_right fun hw => ?_
    exact ((hsteps w hw).fits_iff fun hstopped => h ⟨w, hw, hstopped⟩).symm
  rw [← tried_eq_error_iff] at h
  rw [anyOf, Findings.anyOf]
  cases htried : tried walks with
  | error violation => exact absurd ⟨violation, htried⟩ h
  | ok verdict =>
      have hverdict := (tried_eq_ok htried).trans hany.symm
      cases verdict with
      | true => rw [if_pos (hverdict.mp rfl), pass]
      | false =>
          rw [if_neg fun hempty => Bool.noConfusion (hverdict.mpr hempty), miss, Findings.single]

lemma found_sequence {item : Value → Walk} {found : Value → Findings}
    (hitem : ∀ part, ¬ Stopped (item part) → (item part).found = found part) {v : Value}
    (h : ¬ Stopped (sequence item v)) :
    (sequence item v).found = .sequence found v := by
  cases v with
  | array parts =>
      have hparts : ∀ part ∈ parts, ¬ Stopped (item part) := fun part hpart hstopped =>
        h ((stopped_sequence item _).mpr ⟨parts, rfl, part, hpart, hstopped⟩)
      rw [sequence] at h ⊢
      rw [found_all h, items, List.flatMap_map, Findings.sequence, Findings.ofParts,
        List.flatMap_map]
      refine List.flatMap_congr fun part hpart => ?_
      rw [found_under, hitem part.1 (hparts part.1 (List.fst_mem_of_mem_zipIdx hpart))]
  | _ => rfl

/-- A row of walks of which each is that of one part or finds nothing. -/
lemma flatMap_found {β : Type} {walk : β → Walk} {part : β → Option (Segment × Findings)}
    {list : List β} (h : ∀ b ∈ list, (walk b).found = Findings.ofParts (part b).toList) :
    (list.map walk).flatMap (·.found) = Findings.ofParts (list.filterMap part) := by
  induction list with
  | nil => rfl
  | cons b rest ih =>
      rw [List.forall_mem_cons] at h
      rw [List.map_cons, List.flatMap_cons, h.1, ih h.2, List.filterMap_cons]
      cases part b <;> simp [Findings.ofParts]

section Record

variable {α : Type} {field : String → Option α} {walk : α → Value → Walk}
  {list : α → Value → Findings}

lemma found_expectedKeys (present : Entries String Value) :
    (expectedKeys (fun name => (field name).map walk) present).flatMap (·.found) =
      Findings.ofParts (Findings.undeclared (fun name => (field name).map list) present) := by
  refine flatMap_found fun entry _ => ?_
  simp only [expectedKey, Option.isSome_map]
  split_ifs <;> simp [Findings.ofParts, pass, miss, under, Findings.single]

lemma found_presentFields (declared : Matching.Declarations) (present : Entries String Value) :
    (presentFields declared present).flatMap (·.found) =
      Findings.ofParts (Findings.absent declared present) := by
  refine flatMap_found fun entry _ => ?_
  rw [presentField, Entries.keys]
  split_ifs <;> simp [Findings.ofParts, pass, miss, under, Findings.single]

lemma found_fieldValues {present : Entries String Value}
    (h : ∀ entry ∈ present, ∀ a, field entry.1 = some a →
      (walk a entry.2).found = list a entry.2) :
    (fieldValues (fun name => (field name).map walk) present).flatMap (·.found) =
      Findings.ofParts (Findings.fieldValues (fun name => (field name).map list) present) := by
  refine flatMap_found fun entry hentry => ?_
  cases hfield : field entry.1 with
  | none => simp [fieldValue, hfield, Findings.ofParts, pass]
  | some a => simp [fieldValue, hfield, found_under, h entry hentry a hfield, Findings.ofParts]

lemma found_record (declared : Matching.Declarations)
    (hfield : ∀ name a, field name = some a → ∀ v, ¬ Stopped (walk a v) →
      (walk a v).found = list a v) {v : Value}
    (h : ¬ Stopped (record declared (fun name => (field name).map walk) v)) :
    (record declared (fun name => (field name).map walk) v).found =
      .record declared (fun name => (field name).map list) v := by
  cases v with
  | map entries =>
      have hvalues : ∀ entry ∈ Value.byName entries, ∀ a, field entry.1 = some a →
          (walk a entry.2).found = list a entry.2 := by
        intro entry hentry a ha
        obtain ⟨raw, hraw, rfl⟩ := List.mem_map.mp hentry
        refine hfield _ a ha _ fun hstopped => h ?_
        rw [stopped_record]
        exact ⟨entries, rfl, raw, hraw, walk a, by simp only [ha, Option.map_some], hstopped⟩
      rw [record] at h ⊢
      rw [found_all h, List.flatMap_append, List.flatMap_append, found_expectedKeys,
        found_presentFields, found_fieldValues hvalues, Findings.record, Findings.ofParts,
        Findings.ofParts, Findings.ofParts, Findings.ofParts, List.flatMap_append,
        List.flatMap_append]
  | _ => rfl

end Record

end Walk

namespace Shape

/-- **A walk that is not stopped finds what the shape and the value list.** -/
theorem found_walk (shape : Shape) {v : Value} (h : ¬ (shape.walk v).Stopped) :
    (shape.walk v).found = shape.findings v := by
  induction shape generalizing v with
  | exact kind => exact Walk.found_exact kind v
  | sequence item ih => exact Walk.found_sequence (fun _ hpart => ih hpart) h
  | record fields ih =>
      rw [walk_record] at h ⊢
      rw [findings_record]
      exact Walk.found_record _
        (fun name s hs _ hpart => ih (name, s) (Entries.mem_of_lookup? hs) hpart) h
  | union alternatives ih =>
      rw [walk_union] at h ⊢
      have hopen := h
      rw [Walk.stopped_anyOf] at hopen
      rw [Walk.found_anyOf _ (fun w hw => ?_) h, findings_union, List.map_map]
      · refine congrArg _ (List.map_congr_left fun s hs => ?_)
        exact ih s hs fun hstopped => hopen ⟨_, List.mem_map_of_mem hs, hstopped⟩
      · obtain ⟨s, -, rfl⟩ := List.mem_map.mp hw
        exact s.walk_inStep v
  | optional inner ih =>
      rw [walk_optional] at h ⊢
      have hopen := h
      rw [Walk.stopped_anyOf] at hopen
      rw [Walk.found_anyOf _ (fun w hw => ?_) h, findings_optional, List.map_cons,
        List.map_singleton, ih fun hstopped => hopen ⟨_, List.mem_cons_self, hstopped⟩,
        Walk.found_exact]
      rw [List.mem_pair] at hw
      rcases hw with rfl | rfl
      · exact inner.walk_inStep v
      · exact Walk.kept_inStep.exact .null v
  | any => rfl
  | nothing => rfl
  | pattern p => exact Walk.found_pattern p v
  | scalar expected hscalar =>
      rw [walk_scalar hscalar, findings_scalar hscalar, Walk.found_literal]
  | emptyTemplate => rfl
  | arrayTemplate item rest ih => exact ih h
  | mapTemplate entries ih =>
      rw [walk_mapTemplate] at h ⊢
      rw [findings_mapTemplate, ih h]

lemma not_stopped_of_validate {shape : Shape} {v : Value} {settings : Settings}
    {outcome : Outcome} (h : shape.validate v settings = .ok outcome) :
    ¬ (shape.walk v).Stopped := by
  obtain ⟨⟨verdict, hending⟩, -⟩ := (shape.validate_eq_ok_iff v settings outcome).mp h
  rintro ⟨stop, hstop⟩
  cases hending.symm.trans hstop

/-- A validation that is not stopped brings out the findings. -/
lemma validate_eq_of_not_stopped {shape : Shape} {v : Value} (h : ¬ (shape.walk v).Stopped)
    (settings : Settings) :
    shape.validate v settings =
      .ok ((Session.new settings).collect (shape.findings v)).finish := by
  rw [validate_eq_ok_iff, found_walk shape h]
  refine ⟨?_, rfl⟩
  cases hending : (shape.walk v).ending with
  | error stop => exact absurd ⟨stop, hending⟩ h
  | ok verdict => exact ⟨verdict, rfl⟩

end Shape

end DataShape
