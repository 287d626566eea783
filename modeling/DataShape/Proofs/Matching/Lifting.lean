import DataShape.Proofs.Matching.Findings
import DataShape.Proofs.Unambiguous
import DataShape.Shape.Building

/-!
# Lifting a template early or late

A template can be lifted in two ways: before a match, when the shape is made that a bare value
denotes, or during the match, when the matcher gets to the literal.  Both come to the same for
arrays and scalars.  For a map they come to the same only if it names no field twice: of a repeated
name the early way keeps the last value, as a table that is written from left to right does, while
the late way goes by the first value, and asks for the field once for every entry.

* `Shape.walk_ofEntries` — when no name is repeated, both ways walk alike.
* `Shape.validate_nothing` — how many fields an empty map is told to lack.
* `Shape.validate_ofTemplate` — **both ways agree exactly for maps that name no field twice.**
-/

namespace DataShape

namespace Shape

/-- A validation depends on the shape only through the walk. -/
lemma validate_congr {shape other : Shape} {v : Value} (h : shape.walk v = other.walk v)
    (settings : Settings) : shape.validate v settings = other.validate v settings := by
  rw [validate, validate, Session.examine_eq, Session.examine_eq, h]

/-! ## Maps that name no field twice -/

lemma ofEntries_eq (entries : List (Key × Value)) :
    ofEntries entries = .record (Entries.ofList (Value.templateFields entries)) := by
  rw [ofEntries, ofFields, List.map_map]
  rfl

/-- When no name is repeated, the record of a map walks like the literal. -/
lemma walk_ofEntries {entries : List (Key × Value)}
    (h : (Entries.keys (Value.byName entries)).Nodup) (v : Value) :
    (ofEntries entries).walk v = (literal (.map entries)).walk v := by
  rw [ofEntries_eq, Entries.ofList_of_nodup (by rwa [Value.keys_templateFields]), walk_mapTemplate]

/-! ## Maps that name a field twice -/

/-- An empty map lacks every field of a record all of whose fields are required. -/
lemma length_findings_nothing {fields : List (String × Shape)}
    (h : ∀ field ∈ fields, field.2.isRequired = true) :
    (findings (.record fields) (.map [])).length = fields.length := by
  have habsent : Findings.absent (fields.map fun field => (field.1, field.2.isRequired)) [] =
      fields.map fun field => (.key field.1, Findings.single (.absentKey field.1)) := by
    rw [Findings.absent, List.filterMap_map, ← List.filterMap_eq_map]
    refine List.filterMap_congr fun field hfield => ?_
    simp [h field hfield, Entries.keys]
  rw [findings_record, Findings.record, Value.byName, List.map_nil, Findings.undeclared,
    List.filterMap_nil, Findings.fieldValues, List.filterMap_nil, habsent, List.nil_append,
    List.append_nil, Findings.ofParts, List.flatMap_map, List.length_flatMap]
  simp [Findings.under, Findings.single]

/-- Against an empty map, a validation ends with as many messages as there are required fields. -/
lemma validate_nothing {fields : List (String × Shape)}
    (h : ∀ field ∈ fields, field.2.isRequired = true) (settings : Settings) :
    ∃ outcome, validate (.record fields) (.map []) settings = .ok outcome ∧
      outcome.report.toList.length = fields.length := by
  have hopen : ¬ (walk (.record fields) (.map [])).Stopped := by
    rw [walk_record, Walk.stopped_record]
    rintro ⟨entries, hentries, entry, hentry, -⟩
    cases hentries
    cases hentry
  refine ⟨_, validate_eq_of_not_stopped hopen settings, ?_⟩
  rw [← length_findings_nothing h, Session.finish, Session.collect,
    (Report.toList_addAll_perm _ _).length_eq]
  simp [Session.logOf, Session.new, Report.new, Report.toList]

lemma isRequired_of_mem_templateFields {entries : List (Key × Value)} {field : String × Shape}
    (h : field ∈ Value.templateFields entries) : field.2.isRequired = true := by
  obtain ⟨entry, -, rfl⟩ := List.mem_map.mp h
  rfl

/-- If both ways agree about an empty map, no name is repeated. -/
lemma nodup_of_validate_eq {entries : List (Key × Value)} {settings : Settings}
    (h : (ofEntries entries).validate (.map []) settings =
      (literal (.map entries)).validate (.map []) settings) :
    (Entries.keys (Value.byName entries)).Nodup := by
  -- Each record reports as many absent fields as it declares, so the reports count the fields.
  rw [validate_congr (walk_mapTemplate entries _), ofEntries_eq] at h
  obtain ⟨early, hearly, hfewer⟩ := validate_nothing
    (fun field hfield => isRequired_of_mem_templateFields (Entries.mem_ofList hfield)) settings
  obtain ⟨late, hlate, hall⟩ := validate_nothing
    (fun field hfield => isRequired_of_mem_templateFields hfield) settings
  rw [hearly, hlate, Except.ok.injEq] at h
  rw [h, hall] at hfewer
  rw [← Value.keys_templateFields]
  exact Entries.nodup_of_length_ofList hfewer.symm

/-! ## Both ways -/

/-- What is lifted early is the record of a map, or else walks like the literal. -/
lemma lifted_cases {template : Value} {shape : Shape}
    (h : ofTemplate? template = .ok shape ∨ recordOf? template = .ok shape) :
    (∃ entries, template = .map entries ∧ shape = ofEntries entries) ∨
      (∀ entries, template ≠ .map entries) ∧ ∀ v, shape.walk v = (literal template).walk v := by
  cases template with
  | map entries =>
      rcases h with h | h <;> exact .inl ⟨entries, rfl, (Except.ok.inj h).symm⟩
  | array items =>
      refine .inr ⟨fun _ => Value.noConfusion, fun v => ?_⟩
      rcases h with h | h
      · cases items with
        | nil => cases h
        | cons item rest =>
            cases h
            exact (walk_arrayTemplate item rest v).symm
      · cases h
  | _ =>
      refine .inr ⟨fun _ => Value.noConfusion, fun v => ?_⟩
      rcases h with h | h
      · cases h
        rfl
      · cases h

/-- **Both ways of lifting a template agree exactly for maps that name no field twice**, whatever
the maps inside them do.  What cannot be lifted early cannot be matched either. -/
theorem validate_ofTemplate (template : Value) :
    (∀ shape, ofTemplate? template = .ok shape ∨ recordOf? template = .ok shape →
      ((∀ v settings, shape.validate v settings = (literal template).validate v settings) ↔
        ∀ entries, template = .map entries → (Entries.keys (Value.byName entries)).Nodup)) ∧
    (∀ fault, ofTemplate? template = .error fault → ∀ v settings,
      ∃ violation, (literal template).validate v settings = .error violation) := by
  refine ⟨fun shape h => ?_, fun fault h v settings => ?_⟩
  · rcases lifted_cases h with ⟨entries, rfl, rfl⟩ | ⟨hother, hwalk⟩
    · constructor
      · intro hagree other hsame
        cases hsame
        exact nodup_of_validate_eq (hagree (.map []) .usual)
      · intro hnames v settings
        exact validate_congr (walk_ofEntries (hnames entries rfl) v) settings
    · exact iff_of_true (fun v settings => validate_congr (hwalk v) settings)
        fun entries hmap => absurd hmap (hother entries)
  · cases template with
    | array items =>
        cases items with
        | nil => exact ⟨_, rfl⟩
        | cons item rest => cases h
    | _ => cases h

/-- A template that both ways agree about, and one that cannot be lifted. -/
theorem validate_ofTemplate_of_runs :
    (∀ v settings, (record [("a", .literal (.integer 1))]).validate v settings =
      (literal (.map [(.text "a", .integer 1)])).validate v settings) ∧
    ∃ violation, (literal (.array [])).validate .null .usual = .error violation := by
  constructor
  · refine ((validate_ofTemplate (.map [(.text "a", .integer 1)])).1 _ (.inl rfl)).mpr ?_
    rintro entries ⟨⟩
    decide
  · exact (validate_ofTemplate (.array [])).2 .emptyTemplate rfl .null .usual

/-- A map that names a field by a text and by a number: the early way asks for the last value, the
late way for the first. -/
theorem validate_ofTemplate_repeated :
    let template := Value.map [(.text "1", .integer 1), (.number 1, .text "x")]
    let v := Value.map [(.text "1", .integer 1)]
    ∃ shape, ofTemplate? template = .ok shape ∧ recordOf? template = .ok shape ∧
      (literal template).accepts v .usual = .ok true ∧ shape.accepts v .usual = .ok false ∧
      shape.validate v .usual ≠ (literal template).validate v .usual := by
  intro template v
  have hlate : (literal template).accepts v .usual = .ok true := rfl
  have hearly : (record [("1", .literal (.text "x"))]).accepts v .usual = .ok false := rfl
  refine ⟨_, rfl, rfl, hlate, hearly, fun h => ?_⟩
  have hsame : (record [("1", .literal (.text "x"))]).accepts v .usual =
      (literal template).accepts v .usual := congrArg (Except.map Outcome.isValid) h
  rw [hlate, hearly] at hsame
  cases hsame

end Shape

end DataShape
