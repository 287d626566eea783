import DataShape.Proofs.Entries
import DataShape.Proofs.Induction
import DataShape.Shape.Building

/-!
# Names without repetition

Keys of different types may stand for the same field, so a map may name a field twice.  Values and
shapes in which this happens nowhere are unambiguous.  Records never name a field twice when they
are built from their fields; it is only a literal that can bring a repetition into a shape.

* `Value.Unambiguous`, `Shape.Unambiguous` — no name is repeated in any map, literal or record.
* `Shape.unambiguous_ofFields` — **records built from their fields add no repetition.**
-/

namespace DataShape

/-- No map in the value has two keys that stand for the same field. -/
inductive Value.Unambiguous : Value → Prop
  | scalar {v : Value} : v.isScalar = true → Unambiguous v
  | array {items : List Value} : (∀ item ∈ items, Unambiguous item) → Unambiguous (.array items)
  | map {entries : List (Key × Value)} :
      (Entries.keys (byName entries)).Nodup → (∀ entry ∈ entries, Unambiguous entry.2) →
      Unambiguous (.map entries)

/-- No map in a literal of the shape has two keys that stand for the same field.  No record declares
a field twice either, but that goes without saying for records that are built from their fields,
see `Shape.unambiguous_ofFields`. -/
inductive Shape.Unambiguous : Shape → Prop
  | exact {kind : Kind} : Unambiguous (.exact kind)
  | sequence {item : Shape} : Unambiguous item → Unambiguous (.sequence item)
  | record {fields : List (String × Shape)} :
      (Entries.keys fields).Nodup → (∀ field ∈ fields, Unambiguous field.2) →
      Unambiguous (.record fields)
  | union {alternatives : List Shape} :
      (∀ s ∈ alternatives, Unambiguous s) → Unambiguous (.union alternatives)
  | optional {inner : Shape} : Unambiguous inner → Unambiguous (.optional inner)
  | any : Unambiguous .any
  | nothing : Unambiguous .nothing
  | pattern {p : Pattern} : Unambiguous (.pattern p)
  | literal {v : Value} : v.Unambiguous → Unambiguous (.literal v)

/-! ## Parts -/

namespace Value

lemma Unambiguous.of_mem_array {items : List Value} (h : Unambiguous (.array items)) {item : Value}
    (hitem : item ∈ items) : item.Unambiguous := by
  cases h with
  | scalar hscalar => exact Bool.noConfusion hscalar
  | array hitems => exact hitems item hitem

lemma Unambiguous.nodup_names {entries : List (Key × Value)} (h : Unambiguous (.map entries)) :
    (Entries.keys (byName entries)).Nodup := by
  cases h with
  | scalar hscalar => exact Bool.noConfusion hscalar
  | map hnames _ => exact hnames

lemma Unambiguous.of_mem_map {entries : List (Key × Value)} (h : Unambiguous (.map entries))
    {entry : String × Value} (hentry : entry ∈ byName entries) : entry.2.Unambiguous := by
  obtain ⟨source, hsource, rfl⟩ := List.mem_map.mp hentry
  cases h with
  | scalar hscalar => exact Bool.noConfusion hscalar
  | map _ hentries => exact hentries source hsource

end Value

/-! ## Templates -/

namespace Shape

lemma Unambiguous.of_arrayTemplate {item : Value} {rest : List Value}
    (h : Unambiguous (.literal (.array (item :: rest)))) :
    Unambiguous (.sequence (.literal item)) := by
  cases h with
  | literal h =>
      cases h with
      | scalar hscalar => exact Bool.noConfusion hscalar
      | array hitems => exact .sequence (.literal (hitems item List.mem_cons_self))

lemma Unambiguous.of_mapTemplate {entries : List (Key × Value)}
    (h : Unambiguous (.literal (.map entries))) :
    Unambiguous (.record (Value.templateFields entries)) := by
  cases h with
  | literal h =>
      cases h with
      | scalar hscalar => exact Bool.noConfusion hscalar
      | map hnames hentries =>
          refine .record ?_ fun field hfield => ?_
          · rwa [Value.keys_templateFields]
          · obtain ⟨entry, hentry, rfl⟩ := List.mem_map.mp hfield
            exact .literal (hentries entry hentry)

end Shape

/-! ## Records -/

/-- **Records built from their fields add no repetition.** -/
theorem Shape.unambiguous_ofFields {fields : List (Key × Shape)}
    (h : ∀ field ∈ fields, field.2.Unambiguous) : (ofFields fields).Unambiguous := by
  refine .record (Entries.nodup_keys_ofList _) fun field hfield => ?_
  obtain ⟨entry, hentry, rfl⟩ := List.mem_map.mp (Entries.mem_ofList hfield)
  exact h entry hentry

end DataShape
