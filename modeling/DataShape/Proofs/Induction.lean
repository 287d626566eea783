import Mathlib.Tactic.Common
import DataShape.Matching.Validation

/-!
# Induction over values and shapes

Values nest in lists of items and of entries, and shapes in lists of fields and of alternatives.
The principles here assume a statement of every immediate part, wherever it stands in its list.

A literal that is an array or a map is a template: the matcher treats it as a sequence of its first
item, or as a record with a literal for every entry.  So there is no need to go into templates
twice: induction over a shape goes from such a literal to the sequence or the record it stands for.

* `Value.byParts`, `Shape.byParts` — induction over the immediate parts.
* `Shape.byLifting` — induction over a shape with its templates lifted; `induction` uses it.
* `Shape.check_arrayTemplate`, `Shape.check_mapTemplate` — the matcher lifts templates.
-/

namespace DataShape

/-! ## Values -/

/-- Induction over a value: an array has the statement if all its items have it, a map if the
values of all its entries have it. -/
@[elab_as_elim, induction_eliminator]
theorem Value.byParts {motive : Value → Prop}
    (null : motive .null)
    (boolean : ∀ b, motive (.boolean b))
    (integer : ∀ n, motive (.integer n))
    (float : ∀ x, motive (.float x))
    (text : ∀ s, motive (.text s))
    (array : ∀ items, (∀ item ∈ items, motive item) → motive (.array items))
    (map : ∀ entries, (∀ entry ∈ entries, motive entry.2) → motive (.map entries))
    (foreign : ∀ className shown, motive (.foreign className shown)) :
    ∀ v, motive v
  | .null => null
  | .boolean b => boolean b
  | .integer n => integer n
  | .float x => float x
  | .text s => text s
  | .array items => array items fun item _ =>
      byParts null boolean integer float text array map foreign item
  | .map entries => map entries fun entry _ =>
      byParts null boolean integer float text array map foreign entry.2
  | .foreign className shown => foreign className shown
  termination_by v => sizeOf v
  decreasing_by
    · rename_i hitem
      have := List.sizeOf_lt_of_mem hitem
      simp only [Value.array.sizeOf_spec]
      omega
    · rename_i hentry
      have := List.sizeOf_lt_of_mem hentry
      obtain ⟨key, part⟩ := entry
      simp only [Value.map.sizeOf_spec, Prod.mk.sizeOf_spec] at this ⊢
      omega

/-! ## Shapes -/

/-- Induction over a shape: a record has the statement if the shapes of all its fields have it, a
union if all its alternatives have it.  A literal is a case of its own; its value is for
`Value.byParts`. -/
@[elab_as_elim]
theorem Shape.byParts {motive : Shape → Prop}
    (exact : ∀ kind, motive (.exact kind))
    (sequence : ∀ item, motive item → motive (.sequence item))
    (record : ∀ fields, (∀ field ∈ fields, motive field.2) → motive (.record fields))
    (union : ∀ alternatives, (∀ s ∈ alternatives, motive s) → motive (.union alternatives))
    (optional : ∀ inner, motive inner → motive (.optional inner))
    (any : motive .any)
    (nothing : motive .nothing)
    (pattern : ∀ p, motive (.pattern p))
    (literal : ∀ v, motive (.literal v)) :
    ∀ s, motive s
  | .exact kind => exact kind
  | .sequence item => sequence item
      (byParts exact sequence record union optional any nothing pattern literal item)
  | .record fields => record fields fun field _ =>
      byParts exact sequence record union optional any nothing pattern literal field.2
  | .union alternatives => union alternatives fun s _ =>
      byParts exact sequence record union optional any nothing pattern literal s
  | .optional inner => optional inner
      (byParts exact sequence record union optional any nothing pattern literal inner)
  | .any => any
  | .nothing => nothing
  | .pattern p => pattern p
  | .literal v => literal v
  termination_by s => sizeOf s
  decreasing_by
    · simp only [Shape.sequence.sizeOf_spec]
      omega
    · rename_i hfield
      have := List.sizeOf_lt_of_mem hfield
      obtain ⟨name, part⟩ := field
      simp only [Shape.record.sizeOf_spec, Prod.mk.sizeOf_spec] at this ⊢
      omega
    · rename_i hs
      have := List.sizeOf_lt_of_mem hs
      simp only [Shape.union.sizeOf_spec]
      omega
    · simp only [Shape.optional.sizeOf_spec]
      omega

/-! ## Fields by name -/

/-- The entries of a map under their normalized keys. -/
def Value.byName (entries : List (Key × Value)) : Entries String Value :=
  entries.map fun entry => (entry.1.normalized, entry.2)

/-- The fields that a map is a template of: a literal for every entry. -/
def Value.templateFields (entries : List (Key × Value)) : List (String × Shape) :=
  entries.map fun entry => (entry.1.normalized, .literal entry.2)

lemma Value.keys_templateFields (entries : List (Key × Value)) :
    Entries.keys (templateFields entries) = Entries.keys (byName entries) := by
  simp [Entries.keys, templateFields, byName]

/-! ## Templates -/

/-- Induction over a shape that goes from a template to the sequence or the record it stands for. -/
@[elab_as_elim, induction_eliminator]
theorem Shape.byLifting {motive : Shape → Prop}
    (exact : ∀ kind, motive (.exact kind))
    (sequence : ∀ item, motive item → motive (.sequence item))
    (record : ∀ fields, (∀ field ∈ fields, motive field.2) → motive (.record fields))
    (union : ∀ alternatives, (∀ s ∈ alternatives, motive s) → motive (.union alternatives))
    (optional : ∀ inner, motive inner → motive (.optional inner))
    (any : motive .any)
    (nothing : motive .nothing)
    (pattern : ∀ p, motive (.pattern p))
    (scalar : ∀ v, v.isScalar = true → motive (.literal v))
    (emptyTemplate : motive (.literal (.array [])))
    (arrayTemplate : ∀ item rest, motive (.sequence (.literal item)) →
      motive (.literal (.array (item :: rest))))
    (mapTemplate : ∀ entries, motive (.record (Value.templateFields entries)) →
      motive (.literal (.map entries)))
    (s : Shape) : motive s := by
  refine byParts exact sequence record union optional any nothing pattern (fun v => ?_) s
  induction v with
  | array items ih =>
      cases items with
      | nil => exact emptyTemplate
      | cons item rest => exact arrayTemplate item rest (sequence _ (ih item List.mem_cons_self))
  | map entries ih =>
      refine mapTemplate entries (record _ fun field hfield => ?_)
      obtain ⟨entry, hentry, rfl⟩ := List.mem_map.mp hfield
      exact ih entry hentry
  | _ => exact scalar _ rfl

namespace Shape

/-- A field is declared by the first entry with its name. -/
lemma checkField_eq (fields : List (String × Shape)) (name : String) :
    checkField fields name = (Entries.lookup? name fields).map check := by
  induction fields with
  | nil => simp [checkField, Entries.lookup?]
  | cons field rest ih =>
      obtain ⟨declared, s⟩ := field
      rw [checkField, Entries.lookup?, ih]
      split_ifs <;> simp

/-- In a template a field is declared by the first entry whose normalized key is its name. -/
lemma checkEntry_eq (entries : List (Key × Value)) (name : String) :
    checkEntry entries name = checkField (Value.templateFields entries) name := by
  induction entries with
  | nil => rfl
  | cons entry rest ih =>
      obtain ⟨key, template⟩ := entry
      rw [Value.templateFields, List.map_cons, checkEntry, checkField, ih, Value.templateFields]
      rfl

lemma checkEach_eq (alternatives : List Shape) (v : Value) :
    checkEach alternatives v = alternatives.map fun s => (s, check s v) := by
  induction alternatives with
  | nil => simp [checkEach]
  | cons s rest ih => rw [checkEach, ih, List.map_cons]

/-- The declarations of a template: every field is required. -/
lemma declarations_templateFields (entries : List (Key × Value)) :
    (Value.templateFields entries).map (fun field => (field.1, field.2.isRequired)) =
      entries.map fun entry => (entry.1.normalized, true) := by
  simp [Value.templateFields, isRequired]

lemma check_scalar {expected : Value} (h : expected.isScalar = true) (v : Value) :
    check (.literal expected) v = .literal expected v := by
  cases expected with
  | array items => exact Bool.noConfusion h
  | map entries => exact Bool.noConfusion h
  | _ => rfl

lemma check_arrayTemplate (item : Value) (rest : List Value) (v : Value) :
    check (.literal (.array (item :: rest))) v = check (.sequence (.literal item)) v := rfl

lemma check_mapTemplate (entries : List (Key × Value)) (v : Value) :
    check (.literal (.map entries)) v = check (.record (Value.templateFields entries)) v := by
  rw [check, check, checkTemplate, declarations_templateFields, funext (checkEntry_eq entries)]

end Shape

end DataShape
