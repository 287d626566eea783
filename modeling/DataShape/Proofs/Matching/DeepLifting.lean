import DataShape.Proofs.Matching.Lifting

/-!
# Lifting all templates before a match

A match lifts a template when it gets there, so what is inside a template stays a literal until
then.  All of it can be lifted up front instead: arrays become sequences and maps become records,
all the way down, and only scalars stay literals.  The shape that comes out has no template left
for a match to lift, and still a match finds the same with it.

Only what the conversion gets to counts.  Of an array it takes the first item, so the other items
may be anything.

* `Shape.ofTemplateDeep` — the shape of a bare value without any template.
* `Value.Liftable` — no array without a first item, and no map that names a field twice.
* `Shape.walk_ofTemplateDeep` — the converted shape walks like the literal.
* `Shape.validate_ofTemplateDeep` — **lifting up front and lifting on the way bring out the same.**
-/

namespace DataShape

/-! ## The conversion -/

namespace Shape

mutual

/-- **The shape that a bare value denotes, without any template.**  An array without a first item
denotes none, and stays as it is. -/
def ofTemplateDeep : Value → Shape
  | .array [] => .literal (.array [])
  | .array (item :: _) => .sequence (ofTemplateDeep item)
  | .map entries => ofFields (deepFields entries)
  | v => .literal v

/-- The converted values of a map, each under its key. -/
def deepFields : List (Key × Value) → List (Key × Shape)
  | [] => []
  | (key, v) :: rest => (key, ofTemplateDeep v) :: deepFields rest

end

/-- The shape has no template: every literal in it is a scalar. -/
inductive Lifted : Shape → Prop
  | exact (kind : Kind) : Lifted (.exact kind)
  | sequence {item : Shape} : Lifted item → Lifted (.sequence item)
  | record {fields : List (String × Shape)} :
      (∀ field ∈ fields, Lifted field.2) → Lifted (.record fields)
  | union {alternatives : List Shape} :
      (∀ s ∈ alternatives, Lifted s) → Lifted (.union alternatives)
  | optional {inner : Shape} : Lifted inner → Lifted (.optional inner)
  | any : Lifted .any
  | nothing : Lifted .nothing
  | pattern (p : Pattern) : Lifted (.pattern p)
  | scalar {v : Value} : v.isScalar = true → Lifted (.literal v)

end Shape

/-- Of all that the conversion gets to, every array has a first item, and no map has two keys that
stand for the same field. -/
inductive Value.Liftable : Value → Prop
  | scalar {v : Value} : v.isScalar = true → Liftable v
  | array {item : Value} {rest : List Value} : Liftable item → Liftable (.array (item :: rest))
  | map {entries : List (Key × Value)} :
      (Entries.keys (byName entries)).Nodup → (∀ entry ∈ entries, Liftable entry.2) →
      Liftable (.map entries)

namespace Shape

/-! ## Converted maps -/

lemma ofTemplateDeep_scalar {v : Value} (h : v.isScalar = true) :
    ofTemplateDeep v = .literal v := by
  cases v with
  | array items => exact Bool.noConfusion h
  | map entries => exact Bool.noConfusion h
  | _ => rfl

lemma deepFields_eq (entries : List (Key × Value)) :
    deepFields entries = entries.map fun entry => (entry.1, ofTemplateDeep entry.2) := by
  induction entries with
  | nil => rw [deepFields, List.map_nil]
  | cons entry rest ih =>
      obtain ⟨key, v⟩ := entry
      rw [deepFields, ih, List.map_cons]

/-- A map that names no field twice becomes the record of its converted values. -/
lemma ofTemplateDeep_map {entries : List (Key × Value)}
    (h : (Entries.keys (Value.byName entries)).Nodup) :
    ofTemplateDeep (.map entries) =
      .record ((Value.byName entries).map fun entry => (entry.1, ofTemplateDeep entry.2)) := by
  have hfields : (deepFields entries).map (fun field => (field.1.normalized, field.2)) =
      (Value.byName entries).map fun entry => (entry.1, ofTemplateDeep entry.2) := by
    rw [deepFields_eq, Value.byName, List.map_map, List.map_map]
    rfl
  rw [ofTemplateDeep, ofFields, hfields, Entries.ofList_of_nodup]
  rwa [Entries.keys, List.map_map]

/-- What a bare value denotes must be present, like a literal. -/
lemma isRequired_ofTemplateDeep (v : Value) : (ofTemplateDeep v).isRequired = true := by
  cases v with
  | array items => cases items <;> simp [ofTemplateDeep, isRequired]
  | map entries => simp [ofTemplateDeep, ofFields, isRequired]
  | _ => rfl

/-! ## The same walk -/

/-- **The converted shape walks like the literal.** -/
theorem walk_ofTemplateDeep {template : Value} (h : template.Liftable) (v : Value) :
    (ofTemplateDeep template).walk v = (literal template).walk v := by
  induction h generalizing v with
  | scalar hscalar => rw [ofTemplateDeep_scalar hscalar]
  | array _ ih =>
      rw [ofTemplateDeep, walk_arrayTemplate, walk_sequence, walk_sequence, funext ih]
  | @map entries hnames _ ih =>
      have hfields : Value.templateFields entries =
          (Value.byName entries).map fun entry => (entry.1, literal entry.2) := by
        rw [Value.templateFields, Value.byName, List.map_map]
        rfl
      rw [ofTemplateDeep_map hnames, walk_mapTemplate, hfields, walk_record, walk_record,
        List.map_map, List.map_map]
      congr 1
      · exact List.map_congr_left fun entry _ =>
          congrArg (entry.1, ·) (isRequired_ofTemplateDeep entry.2)
      · funext name
        rw [Entries.lookup?_map name ofTemplateDeep, Entries.lookup?_map name literal,
          Option.map_map, Option.map_map]
        refine Option.map_congr fun part hpart => ?_
        obtain ⟨entry, hentry, hsame⟩ := List.mem_map.mp (Entries.mem_of_lookup? hpart)
        rw [← (Prod.mk.inj hsame).2]
        exact funext (ih entry hentry)

/-! ## No violation -/

/-- A template that can be converted holds neither a pattern nor an empty array, so no value stops
its walk. -/
lemma not_stopped_template {template : Value} (h : template.Liftable) (v : Value) :
    ¬ ((literal template).walk v).Stopped := by
  induction h generalizing v with
  | scalar hscalar =>
      rw [walk_scalar hscalar]
      exact Walk.not_stopped_literal _ v
  | array _ ih =>
      rw [walk_arrayTemplate, walk_sequence, Walk.stopped_sequence]
      rintro ⟨parts, -, part, -, hstopped⟩
      exact ih part hstopped
  | map _ _ ih =>
      rw [walk_mapTemplate, walk_record, Walk.stopped_record]
      rintro ⟨entries, -, present, -, part, hpart, hstopped⟩
      obtain ⟨field, hfield, rfl⟩ := Option.map_eq_some_iff.mp hpart
      obtain ⟨entry, hentry, hsame⟩ := List.mem_map.mp (Entries.mem_of_lookup? hfield)
      rw [← (Prod.mk.inj hsame).2] at hstopped
      exact ih entry hentry present.2 hstopped

/-- The conversion leaves no template. -/
lemma lifted_ofTemplateDeep {template : Value} (h : template.Liftable) :
    (ofTemplateDeep template).Lifted := by
  induction h with
  | scalar hscalar => exact ofTemplateDeep_scalar hscalar ▸ .scalar hscalar
  | array _ ih =>
      rw [ofTemplateDeep]
      exact .sequence ih
  | map hnames _ ih =>
      rw [ofTemplateDeep_map hnames]
      refine .record fun field hfield => ?_
      obtain ⟨present, hpresent, rfl⟩ := List.mem_map.mp hfield
      obtain ⟨entry, hentry, rfl⟩ := List.mem_map.mp hpresent
      exact ih entry hentry

/-! ## Up front and on the way -/

/-- **Lifting up front and lifting on the way bring out the same.**  A bare value that can be
converted all the way denotes a shape without templates, and for every value and all settings a
validation against that shape and one against the literal have an outcome, the same one. -/
theorem validate_ofTemplateDeep {template : Value} (h : template.Liftable) :
    (ofTemplateDeep template).Lifted ∧ ∀ v settings, ∃ outcome,
      (literal template).validate v settings = .ok outcome ∧
      (ofTemplateDeep template).validate v settings = .ok outcome := by
  refine ⟨lifted_ofTemplateDeep h, fun v settings => ?_⟩
  have hlate := validate_eq_of_not_stopped (not_stopped_template h v) settings
  exact ⟨_, hlate, (validate_congr (walk_ofTemplateDeep h v) settings).trans hlate⟩

/-- A map inside an array inside a map, behind an item that cannot be converted, and a value that
fits none of it. -/
theorem validate_ofTemplateDeep_of_nested :
    let template := Value.map [(.text "tags",
      .array [.map [(.number 1, .boolean true)], .array []]), (.flag true, .null)]
    let v := Value.map [(.text "tags", .array [.map [(.text "1", .null)]])]
    ∃ outcome, template.Liftable ∧ (literal template).validate v .usual = .ok outcome ∧
      (ofTemplateDeep template).validate v .usual = .ok outcome ∧
      outcome.report.toList.map (·.1) = ["true", "tags.idx_0.1"] := by
  intro template v
  have h : template.Liftable := by
    refine .map (by decide) fun entry hentry => ?_
    rcases List.mem_pair.mp hentry with rfl | rfl
    · refine .array (.map (by decide) fun inner hinner => ?_)
      exact List.mem_singleton.mp hinner ▸ .scalar rfl
    · exact .scalar rfl
  obtain ⟨outcome, hlate, hearly⟩ := (validate_ofTemplateDeep h).2 v .usual
  have hrun : (literal template).validate v .usual =
      .ok ((Session.new .usual).examine (literal template) v).1.finish := rfl
  refine ⟨outcome, h, hlate, hearly, ?_⟩
  rw [Except.ok.inj (hlate.symm.trans hrun)]
  rfl

end Shape

end DataShape
