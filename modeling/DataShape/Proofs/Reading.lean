import DataShape.Proofs.Induction

/-!
# Readings of shapes

A shape can be read for what a match meets on its way, or just for what it lists in the end.  All
readings go along the same parts: an array template is read as the sequence of its first item, a
map template as the record of its entries, and a name stands for the first field that has it.  What
they make of each rule is their own.

* `Reading` — what becomes of each rule.
* `Shape.read` — a shape and a value, read rule by rule.
* `Shape.read_arrayTemplate`, `Shape.read_mapTemplate` — every reading lifts templates.
-/

namespace DataShape

/-- What becomes of each rule, given what becomes of the parts. -/
structure Reading (α : Type) where
  exact : Kind → Value → α
  sequence : (Value → α) → Value → α
  record : Matching.Declarations → (String → Option (Value → α)) → Value → α
  /-- Alternatives, with the mismatch that stands for all of them. -/
  anyOf : Mismatch → List α → α
  any : α
  nothing : α
  pattern : Pattern → Value → α
  /-- A scalar literal. -/
  literal : Value → Value → α
  emptyTemplate : α

/-- Alternatives by how they were declared. -/
def Rejected.ofAlternatives (alternatives : List Shape) : Rejected :=
  alternatives.foldr Rejected.add ⟨[], [], []⟩

/-- The mismatch of a value with all alternatives of a union. -/
def Mismatch.ofAlternatives (alternatives : List Shape) (v : Value) : Mismatch :=
  .noAlternative v.inspect (.ofAlternatives alternatives)

namespace Shape

variable {α : Type} (r : Reading α)

mutual

/-- A literal and a value, read rule by rule. -/
def readTemplate : Value → Value → α
  | .array [], _ => r.emptyTemplate
  | .array (item :: _), v => r.sequence (readTemplate item) v
  | .map entries, v =>
    r.record (entries.map fun entry => (entry.1.normalized, true)) (readEntry entries) v
  | expected, v => r.literal expected v

/-- The field that the first entry with a normalized key declares. -/
def readEntry : List (Key × Value) → String → Option (Value → α)
  | [], _ => none
  | (key, template) :: rest, name =>
    if key.normalized = name then some (readTemplate template) else readEntry rest name

end

mutual

/-- **A shape and a value, read rule by rule.** -/
def read : Shape → Value → α
  | .exact kind, v => r.exact kind v
  | .sequence item, v => r.sequence (read item) v
  | .record fields, v =>
    r.record (fields.map fun field => (field.1, field.2.isRequired)) (readField fields) v
  | .union alternatives, v => r.anyOf (.ofAlternatives alternatives v) (readEach alternatives v)
  | .optional inner, v =>
    r.anyOf (.ofAlternatives [inner, .exact .null] v) [read inner v, r.exact .null v]
  | .any, _ => r.any
  | .nothing, _ => r.nothing
  | .pattern p, v => r.pattern p v
  | .literal expected, v => readTemplate r expected v

/-- The first field with a name. -/
def readField : List (String × Shape) → String → Option (Value → α)
  | [], _ => none
  | (declared, s) :: rest, name =>
    if declared = name then some (read s) else readField rest name

/-- Several shapes and one value. -/
def readEach : List Shape → Value → List α
  | [], _ => []
  | s :: rest, v => read s v :: readEach rest v

end

/-! ## Parts by name and in order -/

lemma readField_eq (fields : List (String × Shape)) (name : String) :
    readField r fields name = (Entries.lookup? name fields).map (read r) := by
  induction fields with
  | nil => simp [readField, Entries.lookup?]
  | cons field rest ih =>
      obtain ⟨declared, s⟩ := field
      rw [readField, Entries.lookup?, ih]
      split_ifs <;> simp

lemma readEntry_eq (entries : List (Key × Value)) (name : String) :
    readEntry r entries name = readField r (Value.templateFields entries) name := by
  induction entries with
  | nil => rfl
  | cons entry rest ih =>
      obtain ⟨key, template⟩ := entry
      rw [Value.templateFields, List.map_cons, readEntry, readField, ih, Value.templateFields]
      rfl

lemma read_record (fields : List (String × Shape)) (v : Value) :
    read r (.record fields) v =
      r.record (fields.map fun field => (field.1, field.2.isRequired))
        (fun name => (Entries.lookup? name fields).map (read r)) v := by
  rw [read, funext (readField_eq r fields)]

lemma readEach_eq (alternatives : List Shape) (v : Value) :
    readEach r alternatives v = alternatives.map fun s => read r s v := by
  induction alternatives with
  | nil => simp [readEach]
  | cons s rest ih => rw [readEach, ih, List.map_cons]

lemma read_union (alternatives : List Shape) (v : Value) :
    read r (.union alternatives) v =
      r.anyOf (.ofAlternatives alternatives v) (alternatives.map fun s => read r s v) := by
  rw [read, readEach_eq]

/-! ## Literals -/

lemma read_scalar {expected : Value} (h : expected.isScalar = true) (v : Value) :
    read r (.literal expected) v = r.literal expected v := by
  cases expected with
  | array items => exact Bool.noConfusion h
  | map entries => exact Bool.noConfusion h
  | _ => rfl

lemma read_arrayTemplate (item : Value) (rest : List Value) (v : Value) :
    read r (.literal (.array (item :: rest))) v = read r (.sequence (.literal item)) v := rfl

lemma read_mapTemplate (entries : List (Key × Value)) (v : Value) :
    read r (.literal (.map entries)) v = read r (.record (Value.templateFields entries)) v := by
  rw [read, read, readTemplate, declarations_templateFields, funext (readEntry_eq r entries)]

end Shape

end DataShape
