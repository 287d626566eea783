import DataShape.Proofs.Entries
import DataShape.Proofs.Matching.Alternatives
import DataShape.Proofs.Shape.Nullable

/-!
# A field more

A record that declares one field more walks a map like the record without it, wherever the field is
declared, as long as the field may be absent and the map has no key of its name.  Add an entry of
that name to the map, anywhere, and the walk has one more part: the shape of the field and the value
of the entry.  The other fields and the other entries do not learn of it.

So everything there is to say about an optional field is what its shape makes of the value, and
that is: null fits, unless the shape inside is violated by it, and any other value fits if it fits
inside.

* `Shape.walk_record_added_field`, `Shape.walk_record_added_entry` — the two walks.
* `Shape.walk_optional_null`, `Shape.ending_walk_optional` — what is made of the value.
* `Shape.accepts_added_optional` — **a record with an optional field more**.
-/

namespace DataShape

/-! ## Rows of walks with one walk more -/

namespace Walk

/-- A walk that finds a fit may be left out of a row. -/
lemma all_insert_pass (walks more : List Walk) :
    all (walks ++ pass :: more) = all (walks ++ more) := by
  rw [all_append, all_append, all_cons, pass_andThen]

lemma ending_andThen_eq_ok_iff (first second : Walk) (verdict : Bool) :
    (first.andThen second).ending = .ok verdict ↔
      ∃ one other, first.ending = .ok one ∧ second.ending = .ok other ∧
        verdict = (one && other) := by
  rw [andThen]
  cases hfirst : first.ending with
  | error stop => simp [hfirst]
  | ok one => cases second.ending <;> simp [Except.map, eq_comm]

/-- Of two rows that differ in one walk, the verdict of the longer one is a fit if that of the
shorter one and that of the walk are. -/
lemma ending_all_insert {walks more : List Walk} {w : Walk} {verdict own : Bool}
    (h : (all (walks ++ more)).ending = .ok verdict) (hw : w.ending = .ok own) :
    (all (walks ++ w :: more)).ending = .ok (verdict && own) := by
  rw [all_append, ending_andThen_eq_ok_iff] at h
  obtain ⟨one, other, hone, hother, rfl⟩ := h
  rw [all_append, all_cons, ending_andThen_eq_ok_iff]
  refine ⟨one, own && other, hone, ?_, ?_⟩
  · rw [ending_andThen_eq_ok_iff]
    exact ⟨own, other, hw, hother, rfl⟩
  · rw [Bool.and_assoc, Bool.and_comm other own]

end Walk

/-! ## The walks of a record -/

namespace Value

lemma byName_cons (entry : Key × Value) (entries : List (Key × Value)) :
    byName (entry :: entries) = (entry.1.normalized, entry.2) :: byName entries := rfl

lemma byName_append (front back : List (Key × Value)) :
    byName (front ++ back) = byName front ++ byName back := List.map_append

end Value

namespace Walk

variable {field other : String → Option (Value → Walk)} {present : Entries String Value}

lemma expectedKeys_cons (entry : String × Value) (present : Entries String Value) :
    expectedKeys field (entry :: present) =
      expectedKey (field entry.1).isSome entry.1 :: expectedKeys field present := rfl

lemma expectedKeys_append (front back : Entries String Value) :
    expectedKeys field (front ++ back) = expectedKeys field front ++ expectedKeys field back :=
  List.map_append

lemma fieldValues_cons (entry : String × Value) (present : Entries String Value) :
    fieldValues field (entry :: present) =
      fieldValue (field entry.1) entry.1 entry.2 :: fieldValues field present := rfl

lemma fieldValues_append (front back : Entries String Value) :
    fieldValues field (front ++ back) = fieldValues field front ++ fieldValues field back :=
  List.map_append

/-- Of the declared fields only those matter that keys of the map name. -/
lemma expectedKeys_congr (h : ∀ entry ∈ present, field entry.1 = other entry.1) :
    expectedKeys field present = expectedKeys other present :=
  List.map_congr_left fun entry hentry => by rw [h entry hentry]

lemma fieldValues_congr (h : ∀ entry ∈ present, field entry.1 = other entry.1) :
    fieldValues field present = fieldValues other present :=
  List.map_congr_left fun entry hentry => by rw [h entry hentry]

/-- An entry of another name does not make a field present. -/
lemma presentFields_insert_between {declared : Matching.Declarations} {name : String}
    (h : ∀ entry ∈ declared, entry.1 ≠ name) (front back : Entries String Value) (v : Value) :
    presentFields declared (front ++ (name, v) :: back) =
      presentFields declared (front ++ back) := by
  refine List.map_congr_left fun entry hentry => ?_
  have hcontains : ((front ++ (name, v) :: back).map (·.1)).contains entry.1 =
      ((front ++ back).map (·.1)).contains entry.1 := by
    simp [h entry hentry]
  rw [hcontains]

end Walk

namespace Shape

/-- The declarations of a record. -/
def declarations (fields : List (String × Shape)) : Matching.Declarations :=
  fields.map fun field => (field.1, field.2.isRequired)

/-- The walk of the field that is declared under a name. -/
def part (fields : List (String × Shape)) (name : String) : Option (Value → Walk) :=
  (Entries.lookup? name fields).map walk

variable {before after : List (String × Shape)} {name : String} {s : Shape}

/-- A key of another name does not learn of the field. -/
lemma part_added_field (hname : name ∉ Entries.keys (before ++ after))
    {entries : List (Key × Value)} (hentries : ∀ entry ∈ entries, entry.1.normalized ≠ name) :
    ∀ entry ∈ Value.byName entries,
      part (before ++ (name, s) :: after) entry.1 = part (before ++ after) entry.1 := by
  refine List.forall_mem_map.mpr fun entry hentry => ?_
  rw [part, Entries.lookup?_insert_between hname, if_neg (hentries entry hentry), part]

/-- A field that may be absent is never missed. -/
lemma all_presentFields_added_field (hs : s.isRequired = false) (present : Entries String Value) :
    Walk.all (Walk.presentFields (declarations (before ++ (name, s) :: after)) present) =
      .all (Walk.presentFields (declarations (before ++ after)) present) := by
  simp only [Walk.presentFields, declarations, List.map_append, List.map_cons, hs]
  exact Walk.all_insert_pass _ _

/-- **One field more** that may be absent, and is: nothing is different. -/
theorem walk_record_added_field (hname : name ∉ Entries.keys (before ++ after))
    (hs : s.isRequired = false) {entries : List (Key × Value)}
    (hentries : ∀ entry ∈ entries, entry.1.normalized ≠ name) :
    walk (.record (before ++ (name, s) :: after)) (.map entries) =
      walk (.record (before ++ after)) (.map entries) := by
  have hpart : ∀ entry ∈ Value.byName entries,
      part (before ++ (name, s) :: after) entry.1 = part (before ++ after) entry.1 :=
    part_added_field hname hentries
  rw [walk_record, walk_record]
  change Walk.record (declarations _) (part _) _ = Walk.record (declarations _) (part _) _
  rw [Walk.record, Walk.record, Walk.expectedKeys_congr hpart, Walk.fieldValues_congr hpart,
    Walk.all_append, Walk.all_append, all_presentFields_added_field hs, Walk.all_append,
    Walk.all_append]

/-- **One field and one entry more**: there is one walk more, that of the field and the entry. -/
theorem walk_record_added_entry (hname : name ∉ Entries.keys (before ++ after))
    (hs : s.isRequired = false) {front back : List (Key × Value)} {key : Key}
    (hentries : ∀ entry ∈ front ++ back, entry.1.normalized ≠ name)
    (hkey : key.normalized = name) :
    ∃ walks more, walk (.record (before ++ after)) (.map (front ++ back)) = .all (walks ++ more) ∧
      ∀ v, walk (.record (before ++ (name, s) :: after)) (.map (front ++ (key, v) :: back)) =
        .all (walks ++ (s.walk v).under (.key name) :: more) := by
  rw [List.forall_mem_append] at hentries
  have hfront := part_added_field (s := s) hname hentries.1
  have hback := part_added_field (s := s) hname hentries.2
  have hadded : part (before ++ (name, s) :: after) name = some s.walk := by
    rw [part, Entries.lookup?_insert_between hname, if_pos rfl, Option.map_some]
  have hdeclared : ∀ entry ∈ declarations (before ++ after), entry.1 ≠ name := by
    refine List.forall_mem_map.mpr fun field hfield => ?_
    rintro rfl
    exact hname (List.mem_map_of_mem hfield)
  have hexpected : Walk.expectedKey (some s.walk).isSome name = .pass := rfl
  have hpresent : ∀ v, Walk.all (Walk.presentFields (declarations (before ++ (name, s) :: after))
      (Value.byName front ++ (name, v) :: Value.byName back)) =
        .all (Walk.presentFields (declarations (before ++ after))
          (Value.byName front ++ Value.byName back)) := by
    intro v
    rw [all_presentFields_added_field hs, Walk.presentFields_insert_between hdeclared]
  refine ⟨Walk.expectedKeys (part (before ++ after)) (Value.byName front ++ Value.byName back) ++
    Walk.presentFields (declarations (before ++ after)) (Value.byName front ++ Value.byName back) ++
      Walk.fieldValues (part (before ++ after)) (Value.byName front),
      Walk.fieldValues (part (before ++ after)) (Value.byName back), ?_, fun v => ?_⟩
  · rw [walk_record]
    change Walk.record (declarations _) (part _) _ = _
    rw [Walk.record, Value.byName_append, Walk.fieldValues_append, List.append_assoc,
      List.append_assoc, List.append_assoc]
  · rw [walk_record]
    change Walk.record (declarations _) (part _) _ = _
    rw [Walk.record, Value.byName_append, Value.byName_cons, hkey]
    simp only [Walk.all_append, Walk.all_cons, Walk.expectedKeys_append, Walk.expectedKeys_cons,
      Walk.fieldValues_append, Walk.fieldValues_cons, Walk.expectedKeys_congr hfront,
      Walk.expectedKeys_congr hback, Walk.fieldValues_congr hfront, Walk.fieldValues_congr hback,
      hexpected, hpresent, hadded, Walk.fieldValue, Walk.pass_andThen, Walk.andThen_assoc]

/-! ## What an optional shape makes of a value -/

lemma walk_optional_null {inner : Shape} (h : ¬ (inner.walk .null).Stopped) :
    walk (.optional inner) .null = .pass := by
  rw [walk_optional]
  have hopen : ¬ ∃ w ∈ [inner.walk .null, Walk.exact .null .null], w.Stopped := by
    simpa [Walk.not_stopped_exact] using h
  refine (Walk.anyOf_eq_of_not_stopped ?_).resolve_right fun hmiss => ?_
  · rwa [Walk.stopped_anyOf]
  · have hfits : (Walk.anyOf (.ofAlternatives [inner, .exact .null] .null)
        [inner.walk .null, .exact .null .null]).Fits :=
      (Walk.fits_anyOf _ _).mpr ⟨hopen, _, List.mem_cons_of_mem _ List.mem_cons_self, rfl⟩
    rw [hmiss] at hfits
    exact Walk.not_fits_miss _ hfits

lemma ending_walk_optional {inner : Shape} {v : Value} {verdict : Bool} (hv : v ≠ .null)
    (h : (inner.walk v).ending = .ok verdict) :
    (walk (.optional inner) v).ending = .ok verdict := by
  have hnull : Walk.exact .null v = Walk.wrongKind v .null := by
    rw [Walk.exact, if_neg]
    cases v <;> simp [Value.kind] at hv ⊢
  rw [walk_optional, hnull, Walk.anyOf, Walk.tried, h]
  cases verdict <;> rfl

/-! ## A record with an optional field more -/

lemma accepts_eq_ok_iff (shape : Shape) (v : Value) (settings : Settings) (verdict : Bool) :
    shape.accepts v settings = .ok verdict ↔ (shape.walk v).ending = .ok verdict := by
  rw [accepts_eq]
  cases (shape.walk v).ending <;> simp [Except.mapError]

/-- **A record with an optional field more**, declared anywhere.  A map without a key of its name is
matched as before.  With an entry of that name, wherever it stands and however its key is written,
nothing changes either if the value is null and the shape of the field can be tried on null; any
other value that the shape can be tried on decides along with the rest. -/
theorem accepts_added_optional {before after : List (String × Shape)} {name : String}
    (hname : name ∉ Entries.keys (before ++ after)) {inner o : Shape} (ho : optional? inner = .ok o)
    {front back : List (Key × Value)}
    (hentries : ∀ entry ∈ front ++ back, entry.1.normalized ≠ name)
    {key : Key} (hkey : key.normalized = name) (settings : Settings) :
    accepts (.record (before ++ (name, o) :: after)) (.map (front ++ back)) settings =
        accepts (.record (before ++ after)) (.map (front ++ back)) settings ∧
      ((∃ verdict, inner.accepts .null settings = .ok verdict) →
        accepts (.record (before ++ (name, o) :: after)) (.map (front ++ (key, .null) :: back))
            settings =
          accepts (.record (before ++ after)) (.map (front ++ back)) settings) ∧
      ∀ v a b, v ≠ .null →
        accepts (.record (before ++ after)) (.map (front ++ back)) settings = .ok a →
        inner.accepts v settings = .ok b →
        accepts (.record (before ++ (name, o) :: after)) (.map (front ++ (key, v) :: back))
          settings = .ok (a && b) := by
  obtain ⟨-, rfl⟩ := (optional?_eq_ok_iff inner o).mp ho
  obtain ⟨walks, more, hwithout, hwith⟩ :=
    walk_record_added_entry (s := .optional inner) hname rfl hentries hkey
  refine ⟨?_, fun hnull => ?_, fun v a b hv ha hb => ?_⟩
  · rw [accepts_eq, accepts_eq, walk_record_added_field hname rfl hentries]
  · rw [exists_accepts_eq_ok_iff] at hnull
    rw [accepts_eq, accepts_eq, hwith, hwithout, walk_optional_null hnull]
    exact congrArg (fun w => w.ending.mapError (·.violation)) (Walk.all_insert_pass walks more)
  · rw [accepts_eq_ok_iff] at ha hb ⊢
    rw [hwithout] at ha
    rw [hwith]
    refine Walk.ending_all_insert ha ?_
    rw [Walk.under, ending_walk_optional hv hb]
    rfl

/-- An optional text between two fields, and an entry before theirs whose key is a flag. -/
theorem accepts_added_optional_of_text :
    let fields (o : List (String × Shape)) : Shape :=
      .record ([("a", .exact .integer)] ++ o ++ [("b", .any)])
    let entries (entry : List (Key × Value)) : Value :=
      .map (entry ++ [(.text "b", .null), (.text "a", .integer 1)])
    let added : Shape := fields [("true", .optional (.exact .text))]
    optional? (.exact .text) = .ok (.optional (.exact .text)) ∧
      added.accepts (entries []) .usual = (fields []).accepts (entries []) .usual ∧
      added.accepts (entries [(.flag true, .null)]) .usual =
        (fields []).accepts (entries []) .usual ∧
      (fields []).accepts (entries []) .usual = .ok true ∧
      added.accepts (entries [(.flag true, .text "x")]) .usual = .ok true ∧
      added.accepts (entries [(.flag true, .integer 2)]) .usual = .ok false := by
  intro fields entries added
  have hentries : ∀ entry ∈ [] ++ [(Key.text "b", Value.null), (Key.text "a", Value.integer 1)],
      entry.1.normalized ≠ "true" := by
    decide
  have hname : "true" ∉ Entries.keys ([("a", Shape.exact .integer)] ++ [("b", .any)]) := by decide
  have ho : optional? (.exact .text) = .ok (.optional (.exact .text)) := rfl
  have hkey : (Key.flag true).normalized = "true" := rfl
  have h := accepts_added_optional hname ho hentries hkey .usual
  exact ⟨rfl, h.1, h.2.1 ⟨false, rfl⟩, rfl, h.2.2 (.text "x") true true nofun rfl rfl,
    h.2.2 (.integer 2) true false nofun rfl rfl⟩

end Shape

end DataShape
