import DataShape.Proofs.Reading

/-!
# Walks

A match takes a session along.  What it does there depends on the session only through the path at
which it is begun, so there is an account of a match without any session: a `Walk` is what comes to
light when a shape and a value are walked together, namely the mismatches, each with the path from
where the walk began, and how the walk ends, with a verdict or with a violation.  A violation ends
the walk at once, but not without trace: what was found before stays, and the place where the walk
was left is known.

* `Findings` — what comes to light.
* `Walk.under` — a walk that was begun one step further in.
* `Walk.all` — one walk after the other, up to the first violation.
* `Walk.anyOf` — walks of the same value that are tried in isolation.
* `Shape.walk` — the walk of a shape and a value.
* `Walk.Kept` — a property that holds of every walk because all ways of putting walks together
  keep it.
-/

namespace DataShape

/-- Mismatches in the order in which they were met, with their paths. -/
abbrev Findings := List (Path × Mismatch)

/-- The findings of a part, seen from the whole. -/
def Findings.under (step : Segment) (found : Findings) : Findings :=
  found.map fun entry => (step :: entry.1, entry.2)

/-- Where and why a walk was stopped. -/
structure Walk.Stop where
  /-- What stopped the walk. -/
  violation : Violation
  /-- Where the walk was left: the place of the violation, or that of the outermost union on the
  way to it. -/
  left : Path

/-- What a walk finds and how it ends. -/
structure Walk where
  /-- The mismatches. -/
  found : Findings
  /-- The verdict, unless the walk was stopped. -/
  ending : Except Walk.Stop Bool

namespace Walk

/-! ## Putting walks together -/

/-- The value fits. -/
def pass : Walk := ⟨[], .ok true⟩

/-- The value does not fit. -/
def miss (m : Mismatch) : Walk := ⟨[([], m)], .ok false⟩

/-- The shape cannot be applied here. -/
def stop (cause : Violation.Cause) : Walk := ⟨[], .error ⟨⟨cause, []⟩, []⟩⟩

/-- A stop one step further in. -/
def Stop.under (step : Segment) (stop : Stop) : Stop :=
  ⟨⟨stop.violation.cause, step :: stop.violation.path⟩, step :: stop.left⟩

/-- The walk of a part, seen from the whole. -/
def under (step : Segment) (w : Walk) : Walk :=
  ⟨w.found.under step, w.ending.mapError (Stop.under step)⟩

/-- Goes on with a second walk unless the first was stopped; both must find a fit. -/
def andThen (first second : Walk) : Walk :=
  match first.ending with
  | .error _ => first
  | .ok verdict => ⟨first.found ++ second.found, second.ending.map (verdict && ·)⟩

/-- One walk after the other: all must find a fit, and the first violation stops. -/
def all (walks : List Walk) : Walk := walks.foldr andThen pass

/-- The verdict of alternatives that are tried one after the other: whether one fits, unless
one of them, in their order, is stopped. -/
def tried : List Walk → Except Violation Bool
  | [] => .ok false
  | w :: rest =>
    match w.ending with
    | .error stop => .error stop.violation
    | .ok verdict => (tried rest).map (verdict || ·)

/-- **Alternatives.**  They are tried in isolation, so what they find is dropped, and a violation
leaves the walk where the alternatives began.  If none fits there is one mismatch for all. -/
def anyOf (rejection : Mismatch) (walks : List Walk) : Walk :=
  match tried walks with
  | .error violation => ⟨[], .error ⟨violation, []⟩⟩
  | .ok true => pass
  | .ok false => miss rejection

/-! ## Rules -/

/-- The walk of a value of the wrong kind. -/
def wrongKind (v : Value) (kind : Kind) : Walk := miss (.wrongKind v.inspect kind.name)

/-- The walk of one kind. -/
def exact (kind : Kind) (v : Value) : Walk := if v.kind = kind then pass else wrongKind v kind

/-- The walk of a scalar literal. -/
def literal (expected v : Value) : Walk :=
  if v.equal expected then pass else miss (.unequal v.inspect expected.inspect)

/-- The walk of a pattern. -/
def pattern (p : Pattern) (v : Value) : Walk :=
  match v.text? with
  | none => stop (.nonText p.text v.inspect)
  | some s => if p.isMatch s then pass else miss (.unmatchedPattern v.inspect p.text)

/-- The walks of the items of an array. -/
def items (item : Value → Walk) (parts : List Value) : List Walk :=
  parts.zipIdx.map fun part => (item part.1).under (.index part.2)

/-- The walk of a sequence. -/
def sequence (item : Value → Walk) (v : Value) : Walk :=
  match v with
  | .array parts => all (items item parts)
  | _ => wrongKind v .array

/-- The walk of a key of the value, which must be declared. -/
def expectedKey (isDeclared : Bool) (key : String) : Walk :=
  if isDeclared then pass else (miss (.undeclaredKey key)).under (.key key)

/-- The walk of a declared field, which must be present if it is required. -/
def presentField (isRequired isPresent : Bool) (name : String) : Walk :=
  if isRequired && !isPresent then (miss (.absentKey name)).under (.key name) else pass

/-- The walk of the value of a key. -/
def fieldValue (part : Option (Value → Walk)) (key : String) (v : Value) : Walk :=
  match part with
  | some part => (part v).under (.key key)
  | none => pass

/-- The walks of the keys of a map, whether they are declared. -/
def expectedKeys (field : String → Option (Value → Walk)) (present : Entries String Value) :
    List Walk :=
  present.map fun entry => expectedKey (field entry.1).isSome entry.1

/-- The walks of the declared fields, whether they are present. -/
def presentFields (declared : Matching.Declarations) (present : Entries String Value) :
    List Walk :=
  declared.map fun entry =>
    presentField entry.2 ((present.map (·.1)).contains entry.1) entry.1

/-- The walks of the values of a map. -/
def fieldValues (field : String → Option (Value → Walk)) (present : Entries String Value) :
    List Walk :=
  present.map fun entry => fieldValue (field entry.1) entry.1 entry.2

/-- The walk of a record: three passes over one list of walks. -/
def record (declared : Matching.Declarations) (field : String → Option (Value → Walk))
    (v : Value) : Walk :=
  match v with
  | .map entries =>
    all (expectedKeys field (Value.byName entries) ++
      presentFields declared (Value.byName entries) ++ fieldValues field (Value.byName entries))
  | _ => wrongKind v .map

/-- The reading of shapes as walks. -/
def reading : Reading Walk where
  exact := exact
  sequence := sequence
  record := record
  anyOf := anyOf
  any := pass
  nothing := miss .forbiddenKey
  pattern := pattern
  literal := literal
  emptyTemplate := stop .emptyTemplate

end Walk

namespace Shape

/-- **The walk of a shape and a value.** -/
def walk (shape : Shape) (v : Value) : Walk := shape.read Walk.reading v

lemma walk_exact (kind : Kind) (v : Value) : walk (.exact kind) v = .exact kind v := rfl

lemma walk_sequence (item : Shape) (v : Value) : walk (.sequence item) v = .sequence item.walk v :=
  rfl

lemma walk_record (fields : List (String × Shape)) (v : Value) :
    walk (.record fields) v =
      .record (fields.map fun field => (field.1, field.2.isRequired))
        (fun name => (Entries.lookup? name fields).map walk) v :=
  read_record Walk.reading fields v

lemma walk_union (alternatives : List Shape) (v : Value) :
    walk (.union alternatives) v =
      .anyOf (.ofAlternatives alternatives v) (alternatives.map fun s => s.walk v) :=
  read_union Walk.reading alternatives v

lemma walk_optional (inner : Shape) (v : Value) :
    walk (.optional inner) v =
      .anyOf (.ofAlternatives [inner, .exact .null] v) [inner.walk v, .exact .null v] := rfl

/-- An optional shape walks like the union of the shape inside and null. -/
lemma walk_optional_eq_union (inner : Shape) (v : Value) :
    walk (.optional inner) v = walk (.union [inner, .exact .null]) v := by
  rw [walk_optional, walk_union]
  rfl

lemma walk_pattern (p : Pattern) (v : Value) : walk (.pattern p) v = .pattern p v := rfl

lemma walk_scalar {expected : Value} (h : expected.isScalar = true) (v : Value) :
    walk (.literal expected) v = .literal expected v := read_scalar Walk.reading h v

lemma walk_arrayTemplate (item : Value) (rest : List Value) (v : Value) :
    walk (.literal (.array (item :: rest))) v = walk (.sequence (.literal item)) v := rfl

lemma walk_mapTemplate (entries : List (Key × Value)) (v : Value) :
    walk (.literal (.map entries)) v = walk (.record (Value.templateFields entries)) v :=
  read_mapTemplate Walk.reading entries v

end Shape

/-! ## Walks in a row -/

namespace Walk

@[simp] lemma all_nil : all [] = pass := rfl

@[simp] lemma all_cons (w : Walk) (rest : List Walk) : all (w :: rest) = w.andThen (all rest) :=
  rfl

/-- A walk that was not stopped hands its findings on. -/
lemma andThen_of_ok {first : Walk} {verdict : Bool} (h : first.ending = .ok verdict)
    (second : Walk) :
    first.andThen second = ⟨first.found ++ second.found, second.ending.map (verdict && ·)⟩ := by
  rw [andThen, h]

lemma andThen_of_error {first : Walk} {stop : Stop} (h : first.ending = .error stop)
    (second : Walk) : first.andThen second = first := by
  rw [andThen, h]

lemma pass_andThen (w : Walk) : pass.andThen w = w := by
  obtain ⟨found, ending⟩ := w
  cases ending <;> simp [pass, andThen, Except.map]

lemma andThen_assoc (a b c : Walk) : (a.andThen b).andThen c = a.andThen (b.andThen c) := by
  cases ha : a.ending with
  | error stop => simp only [andThen_of_error ha]
  | ok verdict =>
      rw [andThen_of_ok ha, andThen_of_ok ha]
      cases hb : b.ending with
      | error stop => simp [andThen, hb, Except.map]
      | ok other =>
          rw [andThen_of_ok hb]
          cases hc : c.ending <;> simp [andThen, hc, Except.map, Bool.and_assoc]

lemma all_append (walks more : List Walk) :
    all (walks ++ more) = (all walks).andThen (all more) := by
  induction walks with
  | nil => rw [List.nil_append, all_nil, pass_andThen]
  | cons w rest ih => rw [List.cons_append, all_cons, all_cons, ih, andThen_assoc]

end Walk

/-! ## What holds of every walk -/

/-- A property of walks that the ways of putting walks together keep. -/
structure Walk.Kept (P : Walk → Prop) : Prop where
  pass : P .pass
  miss : ∀ m, P (.miss m)
  stop : ∀ cause, P (.stop cause)
  under : ∀ step w, P w → P (w.under step)
  andThen : ∀ first second, P first → P second → P (first.andThen second)
  anyOf : ∀ rejection walks, (∀ w ∈ walks, P w) → P (.anyOf rejection walks)

namespace Walk.Kept

variable {P : Walk → Prop} (h : Kept P)

include h

lemma all {walks : List Walk} (hwalks : ∀ w ∈ walks, P w) : P (.all walks) := by
  induction walks with
  | nil => exact h.pass
  | cons w rest ih =>
      exact h.andThen w _ (hwalks w List.mem_cons_self)
        (ih fun other hother => hwalks other (List.mem_cons_of_mem w hother))

/-- A place that a condition decides on. -/
lemma ite (c : Prop) [Decidable c] (m : Mismatch) : P (if c then .pass else .miss m) := by
  split_ifs
  · exact h.pass
  · exact h.miss m

lemma exact (kind : Kind) (v : Value) : P (.exact kind v) := h.ite _ _

lemma literal (expected v : Value) : P (.literal expected v) := h.ite _ _

lemma pattern (p : Pattern) (v : Value) : P (.pattern p v) := by
  rw [Walk.pattern]
  cases v.text? with
  | none => exact h.stop _
  | some s => exact h.ite _ _

lemma sequence {item : Value → Walk} (hitem : ∀ part, P (item part)) (v : Value) :
    P (.sequence item v) := by
  cases v with
  | array parts =>
      refine h.all fun w hw => ?_
      obtain ⟨part, -, rfl⟩ := List.mem_map.mp hw
      exact h.under _ _ (hitem part.1)
  | _ => exact h.miss _

lemma record (declared : Matching.Declarations) {field : String → Option (Value → Walk)}
    (hfield : ∀ name part, field name = some part → ∀ v, P (part v)) (v : Value) :
    P (.record declared field v) := by
  cases v with
  | map entries =>
      refine h.all fun w hw => ?_
      rw [List.mem_append, List.mem_append] at hw
      rcases hw with (hw | hw) | hw
      · obtain ⟨entry, -, rfl⟩ := List.mem_map.mp hw
        rw [expectedKey]
        split_ifs
        · exact h.pass
        · exact h.under _ _ (h.miss _)
      · obtain ⟨entry, -, rfl⟩ := List.mem_map.mp hw
        rw [presentField]
        split_ifs
        · exact h.under _ _ (h.miss _)
        · exact h.pass
      · obtain ⟨entry, -, rfl⟩ := List.mem_map.mp hw
        cases hpart : field entry.1 with
        | none => exact h.pass
        | some part => exact h.under _ _ (hfield entry.1 part hpart entry.2)
  | _ => exact h.miss _

/-- **What is kept holds of every walk.** -/
theorem walk (shape : Shape) (v : Value) : P (shape.walk v) := by
  induction shape generalizing v with
  | exact kind => exact h.exact kind v
  | sequence item ih => exact h.sequence ih v
  | record fields ih =>
      rw [Shape.walk_record]
      refine h.record _ (fun name part hpart => ?_) v
      rw [Option.map_eq_some_iff] at hpart
      obtain ⟨s, hs, rfl⟩ := hpart
      exact ih (name, s) (Entries.mem_of_lookup? hs)
  | union alternatives ih =>
      rw [Shape.walk_union]
      refine h.anyOf _ _ fun w hw => ?_
      obtain ⟨s, hs, rfl⟩ := List.mem_map.mp hw
      exact ih s hs v
  | optional inner ih =>
      refine h.anyOf _ _ fun w hw => ?_
      rw [List.mem_cons, List.mem_singleton] at hw
      rcases hw with rfl | rfl
      · exact ih v
      · exact h.exact .null v
  | any => exact h.pass
  | nothing => exact h.miss _
  | pattern p => exact h.pattern p v
  | scalar expected hscalar => exact Shape.walk_scalar hscalar v ▸ h.literal expected v
  | emptyTemplate => exact h.stop .emptyTemplate
  | arrayTemplate item rest ih => exact ih v
  | mapTemplate entries ih => exact Shape.walk_mapTemplate entries v ▸ ih v

end Walk.Kept

end DataShape
