import DataShape.Proofs.Matching.Ending
import DataShape.Proofs.Matching.Verdict

/-!
# What a shape means

Two relations say what a shape means without a path, a session or an order of visits: a value may
*violate* the use of a shape, when some pattern in it meets something that is not text or some empty
template is reached, and a value may *conform* to a shape.  A violation anywhere outweighs
everything else, also a conforming alternative.

Templates are not explained anew: an array means the sequence of its first item, a map the record
with a literal for every entry, where the first entry with a normalized key declares the field.

* `Shape.Violates`, `Shape.Conforms` — the two relations.
* `Shape.stopped_walk_iff`, `Shape.fits_walk_iff` — what the ends of a walk mean.
* `Shape.accepts_iff` — **the verdict of a match is the meaning of the shape**.
-/

namespace DataShape

namespace Shape

/-- The value meets the shape where it cannot be applied. -/
inductive Violates : Shape → Value → Prop
  /-- A pattern meets a value that is not text. -/
  | pattern {p : Pattern} {v : Value} : (∀ text, v ≠ .text text) → Violates (.pattern p) v
  /-- Some item of an array does. -/
  | sequence {item : Shape} {parts : List Value} {part : Value} :
      part ∈ parts → Violates item part → Violates (.sequence item) (.array parts)
  /-- Some entry of a map does whose key names a declared field. -/
  | record {fields : List (String × Shape)} {entries : List (Key × Value)}
      {entry : Key × Value} {s : Shape} :
      entry ∈ entries → Entries.lookup? entry.1.normalized fields = some s →
        Violates s entry.2 → Violates (.record fields) (.map entries)
  /-- Some alternative does, even if another alternative conforms. -/
  | union {alternatives : List Shape} {s : Shape} {v : Value} :
      s ∈ alternatives → Violates s v → Violates (.union alternatives) v
  /-- An optional shape is the union of the shape inside and null. -/
  | optional {inner : Shape} {v : Value} :
      Violates (.union [inner, .exact .null]) v → Violates (.optional inner) v
  /-- An empty template does with every value. -/
  | emptyTemplate {v : Value} : Violates (.literal (.array [])) v
  | arrayTemplate {item : Value} {rest : List Value} {v : Value} :
      Violates (.sequence (.literal item)) v → Violates (.literal (.array (item :: rest))) v
  | mapTemplate {entries : List (Key × Value)} {v : Value} :
      Violates (.record (Value.templateFields entries)) v → Violates (.literal (.map entries)) v

/-- The value conforms to the shape, wherever the shape can be applied. -/
inductive Conforms : Shape → Value → Prop
  | exact {kind : Kind} {v : Value} : v.kind = kind → Conforms (.exact kind) v
  | sequence {item : Shape} {parts : List Value} :
      (∀ part ∈ parts, Conforms item part) → Conforms (.sequence item) (.array parts)
  /-- Every key names a declared field, every required field is named by some key, and every value
  conforms to the shape of its field. -/
  | record {fields : List (String × Shape)} {entries : List (Key × Value)} :
      (∀ entry ∈ entries, ∃ s, Entries.lookup? entry.1.normalized fields = some s) →
      (∀ field ∈ fields, field.2.isRequired = true →
        ∃ entry ∈ entries, entry.1.normalized = field.1) →
      (∀ entry ∈ entries, ∀ s, Entries.lookup? entry.1.normalized fields = some s →
        Conforms s entry.2) →
      Conforms (.record fields) (.map entries)
  | union {alternatives : List Shape} {s : Shape} {v : Value} :
      s ∈ alternatives → Conforms s v → Conforms (.union alternatives) v
  | optional {inner : Shape} {v : Value} : Conforms inner v → Conforms (.optional inner) v
  | optionalNull {inner : Shape} {v : Value} : v.kind = .null → Conforms (.optional inner) v
  | any {v : Value} : Conforms .any v
  | pattern {p : Pattern} {text : String} :
      p.isMatch text = true → Conforms (.pattern p) (.text text)
  | scalar {expected v : Value} :
      expected.isScalar = true → v.equal expected = true → Conforms (.literal expected) v
  | arrayTemplate {item : Value} {rest : List Value} {v : Value} :
      Conforms (.sequence (.literal item)) v → Conforms (.literal (.array (item :: rest))) v
  | mapTemplate {entries : List (Key × Value)} {v : Value} :
      Conforms (.record (Value.templateFields entries)) v → Conforms (.literal (.map entries)) v

end Shape

/-! ## The meaning of a shape -/

namespace Shape

/-- **A walk is stopped exactly by a violation of the shape.** -/
theorem stopped_walk_iff (shape : Shape) (v : Value) :
    (shape.walk v).Stopped ↔ shape.Violates v := by
  induction shape generalizing v with
  | exact kind =>
      refine iff_of_false ?_ (by rintro ⟨⟩)
      rw [walk_exact]
      exact Walk.not_stopped_exact kind v
  | sequence item ih =>
      rw [walk_sequence, Walk.stopped_sequence]
      constructor
      · rintro ⟨parts, rfl, part, hpart, hstopped⟩
        exact .sequence hpart ((ih part).mp hstopped)
      · intro h
        cases h with
        | sequence hpart hviolates => exact ⟨_, rfl, _, hpart, (ih _).mpr hviolates⟩
  | record fields ih =>
      rw [walk_record, Walk.stopped_record]
      simp only [Option.map_eq_some_iff]
      constructor
      · rintro ⟨entries, rfl, entry, hentry, _, ⟨s, hs, rfl⟩, hstopped⟩
        exact .record hentry hs ((ih _ (Entries.mem_of_lookup? hs) _).mp hstopped)
      · intro h
        cases h with
        | record hentry hs hviolates =>
            exact ⟨_, rfl, _, hentry, _, ⟨_, hs, rfl⟩,
              (ih _ (Entries.mem_of_lookup? hs) _).mpr hviolates⟩
  | union alternatives ih =>
      rw [walk_union, Walk.stopped_anyOf]
      constructor
      · intro h
        obtain ⟨_, hmem, hstopped⟩ := h
        obtain ⟨s, hs, rfl⟩ := List.mem_map.mp hmem
        exact .union hs ((ih s hs v).mp hstopped)
      · intro h
        cases h with
        | union hs hviolates =>
            exact ⟨_, List.mem_map_of_mem hs, (ih _ hs v).mpr hviolates⟩
  | optional inner ih =>
      rw [walk_optional, Walk.stopped_anyOf]
      constructor
      · rintro ⟨w, hw, hstopped⟩
        rw [List.mem_pair] at hw
        rcases hw with rfl | rfl
        · exact .optional (.union List.mem_cons_self ((ih v).mp hstopped))
        · exact absurd hstopped (Walk.not_stopped_exact .null v)
      · intro h
        cases h with
        | optional h =>
            cases h with
            | union hs hviolates =>
                rw [List.mem_pair] at hs
                rcases hs with rfl | rfl
                · exact ⟨_, List.mem_cons_self, (ih v).mpr hviolates⟩
                · cases hviolates
  | any => exact iff_of_false Walk.not_stopped_pass (by rintro ⟨⟩)
  | nothing => exact iff_of_false (Walk.not_stopped_miss _) (by rintro ⟨⟩)
  | pattern p =>
      rw [walk_pattern, Walk.stopped_pattern]
      exact ⟨.pattern, fun h => by cases h with | pattern h => exact h⟩
  | scalar expected hscalar =>
      rw [walk_scalar hscalar]
      refine iff_of_false (Walk.not_stopped_literal expected v) fun h => ?_
      cases h <;> exact Bool.noConfusion hscalar
  | emptyTemplate => exact iff_of_true ⟨_, rfl⟩ .emptyTemplate
  | arrayTemplate item rest ih =>
      rw [walk_arrayTemplate, ih]
      exact ⟨.arrayTemplate, fun h => by cases h with | arrayTemplate h => exact h⟩
  | mapTemplate entries ih =>
      rw [walk_mapTemplate, ih]
      exact ⟨.mapTemplate, fun h => by cases h with | mapTemplate h => exact h⟩

/-- **A walk that is not stopped ends with a fit exactly if the value conforms.** -/
theorem fits_walk_iff (shape : Shape) (v : Value) (hno : ¬ shape.Violates v) :
    (shape.walk v).Fits ↔ shape.Conforms v := by
  induction shape generalizing v with
  | exact kind =>
      rw [walk_exact, Walk.fits_exact]
      exact ⟨.exact, fun h => by cases h with | exact h => exact h⟩
  | sequence item ih =>
      rw [walk_sequence, Walk.fits_sequence]
      constructor
      · rintro ⟨parts, rfl, hparts⟩
        exact .sequence fun part hpart =>
          (ih part fun h => hno (.sequence hpart h)).mp (hparts part hpart)
      · intro h
        cases h with
        | sequence hparts =>
            exact ⟨_, rfl, fun part hpart =>
              (ih part fun h => hno (.sequence hpart h)).mpr (hparts part hpart)⟩
  | record fields ih =>
      rw [walk_record, Walk.fits_record]
      simp only [Option.map_eq_some_iff, List.forall_mem_map]
      constructor
      · rintro ⟨entries, rfl, hkeys, hfields, hparts⟩
        refine .record (fun entry hentry => ?_) hfields fun entry hentry s hs => ?_
        · obtain ⟨_, s, hs, -⟩ := hkeys entry hentry
          exact ⟨s, hs⟩
        · exact (ih _ (Entries.mem_of_lookup? hs) _ fun h => hno (.record hentry hs h)).mp
            (hparts entry hentry _ ⟨s, hs, rfl⟩)
      · intro h
        cases h with
        | record hkeys hfields hparts =>
            refine ⟨_, rfl, fun entry hentry => ?_, hfields, ?_⟩
            · obtain ⟨s, hs⟩ := hkeys entry hentry
              exact ⟨_, s, hs, rfl⟩
            · rintro entry hentry _ ⟨s, hs, rfl⟩
              exact (ih _ (Entries.mem_of_lookup? hs) _ fun h => hno (.record hentry hs h)).mpr
                (hparts entry hentry s hs)
  | union alternatives ih =>
      have hopen : ¬ (walk (.union alternatives) v).Stopped := by rwa [stopped_walk_iff]
      rw [walk_union, Walk.stopped_anyOf] at hopen
      rw [walk_union, Walk.fits_anyOf, and_iff_right hopen]
      constructor
      · rintro ⟨_, hmem, hfits⟩
        obtain ⟨s, hs, rfl⟩ := List.mem_map.mp hmem
        exact .union hs ((ih s hs v fun h => hno (.union hs h)).mp hfits)
      · intro h
        cases h with
        | union hs hconforms =>
            exact ⟨_, List.mem_map_of_mem hs, (ih _ hs v fun h => hno (.union hs h)).mpr hconforms⟩
  | optional inner ih =>
      have hopen : ¬ (walk (.optional inner) v).Stopped := by rwa [stopped_walk_iff]
      have hinner := ih v fun h => hno (.optional (.union List.mem_cons_self h))
      rw [walk_optional, Walk.stopped_anyOf] at hopen
      rw [walk_optional, Walk.fits_anyOf, and_iff_right hopen]
      constructor
      · rintro ⟨w, hw, hfits⟩
        rw [List.mem_pair] at hw
        rcases hw with rfl | rfl
        · exact .optional (hinner.mp hfits)
        · exact .optionalNull ((Walk.fits_exact .null v).mp hfits)
      · intro h
        cases h with
        | optional hconforms => exact ⟨_, List.mem_cons_self, hinner.mpr hconforms⟩
        | optionalNull hnull =>
            exact ⟨_, List.mem_cons_of_mem _ List.mem_cons_self,
              (Walk.fits_exact .null v).mpr hnull⟩
  | any => exact iff_of_true Walk.fits_pass .any
  | nothing => exact iff_of_false (Walk.not_fits_miss _) (by rintro ⟨⟩)
  | pattern p =>
      rw [walk_pattern, Walk.fits_pattern]
      constructor
      · rintro ⟨text, rfl, hmatch⟩
        exact .pattern hmatch
      · intro h
        cases h with
        | pattern hmatch => exact ⟨_, rfl, hmatch⟩
  | scalar expected hscalar =>
      rw [walk_scalar hscalar, Walk.fits_literal]
      constructor
      · exact .scalar hscalar
      · intro h
        cases h with
        | scalar _ hequal => exact hequal
        | arrayTemplate h => exact Bool.noConfusion hscalar
        | mapTemplate h => exact Bool.noConfusion hscalar
  | emptyTemplate => exact absurd .emptyTemplate hno
  | arrayTemplate item rest ih =>
      rw [walk_arrayTemplate, ih v fun h => hno (.arrayTemplate h)]
      constructor
      · exact .arrayTemplate
      · intro h
        cases h with
        | scalar hscalar => exact Bool.noConfusion hscalar
        | arrayTemplate h => exact h
  | mapTemplate entries ih =>
      rw [walk_mapTemplate, ih v fun h => hno (.mapTemplate h)]
      constructor
      · exact .mapTemplate
      · intro h
        cases h with
        | scalar hscalar => exact Bool.noConfusion hscalar
        | mapTemplate h => exact h

/-- The bare verdict of a match is how the walk ends. -/
lemma accepts_eq (shape : Shape) (v : Value) (settings : Settings) :
    shape.accepts v settings = (shape.walk v).ending.mapError (·.violation) := by
  rw [accepts, validate, Session.examine_eq, Walk.replay]
  cases hending : (shape.walk v).ending with
  | error stop => rfl
  | ok verdict =>
      simp only [Except.map, Except.mapError, Session.isValid_finish_collect]
      rw [shape.walk_inStep v verdict hending]

lemma accepts_eq_ok_true_iff (shape : Shape) (v : Value) (settings : Settings) :
    shape.accepts v settings = .ok true ↔ (shape.walk v).Fits := by
  rw [accepts_eq, Walk.Fits]
  cases (shape.walk v).ending <;> simp [Except.mapError]

lemma exists_accepts_eq_error_iff (shape : Shape) (v : Value) (settings : Settings) :
    (∃ violation, shape.accepts v settings = .error violation) ↔ (shape.walk v).Stopped := by
  rw [accepts_eq, Walk.Stopped]
  cases (shape.walk v).ending <;> simp [Except.mapError]

lemma exists_accepts_eq_ok_iff (shape : Shape) (v : Value) (settings : Settings) :
    (∃ verdict, shape.accepts v settings = .ok verdict) ↔ ¬ (shape.walk v).Stopped := by
  rw [← exists_accepts_eq_error_iff shape v settings]
  cases shape.accepts v settings <;> simp

/-- The verdict, if there is one, is that of the walk. -/
lemma toOption_accepts (shape : Shape) (v : Value) (settings : Settings) :
    (shape.accepts v settings).toOption = (shape.walk v).ending.toOption := by
  rw [accepts_eq]
  cases (shape.walk v).ending <;> rfl

/-- **The verdict of a match is the meaning of the shape**, with any settings: there is none if the
value violates the shape, wherever that is, and otherwise it says whether the value conforms. -/
theorem accepts_iff (shape : Shape) (v : Value) (settings : Settings) :
    ((∃ violation, shape.accepts v settings = .error violation) ↔ shape.Violates v) ∧
    (shape.accepts v settings = .ok true ↔ ¬ shape.Violates v ∧ shape.Conforms v) ∧
    (shape.accepts v settings = .ok false ↔ ¬ shape.Violates v ∧ ¬ shape.Conforms v) := by
  have hviolates := shape.stopped_walk_iff v
  have hconforms := shape.fits_walk_iff v
  rw [Walk.Stopped] at hviolates
  rw [Walk.Fits] at hconforms
  rw [accepts_eq]
  cases hending : (shape.walk v).ending with
  | error stop =>
      have h : shape.Violates v := hviolates.mp ⟨stop, hending⟩
      simp [Except.mapError, h]
  | ok verdict =>
      have h : ¬ shape.Violates v := by simp [← hviolates, hending]
      simp [Except.mapError, h, ← hconforms h, hending]

end Shape

end DataShape
