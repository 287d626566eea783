import DataShape.Proofs.Matching.Conformance
import DataShape.Shape.Building

/-!
# Shapes that accept null

An optional shape is refused around a shape that is seen to accept null or absence already.  What is
seen is where the shape comes to through its unions: null itself, an optional shape, or the shape of
no value.  What a match with null finds depends on the same places, with two differences.  A shape
of every value also takes null, which is not seen.  And the shape of no value takes nothing at all
inside a union, where no field can be absent, although it is seen there as well.

Whether null can be tried at all depends on more places, since the shape inside an optional one is
tried, too.

* `Shape.Offers` — the shapes that a shape comes to through its unions.
* `Shape.Tries` — the shapes that a value is tried on.
* `Shape.conforms_null_iff`, `Shape.violates_null_iff` — the match with null.
* `Shape.isNullable_iff` — what is seen.
* `Shape.accepts_null_of_isNullable` — **when null or absence is accepted as seen**.
* `Shape.isNullable_of_accepts_null` — **what accepts null is seen to**, the shape of every value
  aside.
-/

namespace DataShape

namespace Shape

/-! ## Shapes inside a shape -/

/-- A shape comes to another one through its unions only. -/
inductive Offers : Shape → Shape → Prop
  | self (s : Shape) : Offers s s
  | alternative {alternatives : List Shape} {a s : Shape} :
      a ∈ alternatives → Offers a s → Offers (.union alternatives) s

/-- A match with a shape tries the same value on another one. -/
inductive Tries : Shape → Shape → Prop
  | self (s : Shape) : Tries s s
  | alternative {alternatives : List Shape} {a s : Shape} :
      a ∈ alternatives → Tries a s → Tries (.union alternatives) s
  | inner {inner s : Shape} : Tries inner s → Tries (.optional inner) s

/-- The shape takes null without having alternatives. -/
def takesNull : Shape → Bool
  | .exact kind => kind.isNull
  | .literal v => v.isNull
  | .optional _ => true
  | .any => true
  | _ => false

/-- The shape cannot be tried on null. -/
def isMisusedByNull : Shape → Bool
  | .pattern _ => true
  | .literal (.array []) => true
  | _ => false

/-- The shape is a union. -/
def isUnion : Shape → Bool
  | .union _ => true
  | _ => false

variable {P : Shape → Prop}

lemma exists_offers_union {alternatives : List Shape} (hself : ¬ P (.union alternatives)) :
    (∃ s, Offers (.union alternatives) s ∧ P s) ↔ ∃ a ∈ alternatives, ∃ s, a.Offers s ∧ P s := by
  constructor
  · rintro ⟨s, hoffers, hs⟩
    cases hoffers with
    | self => exact absurd hs hself
    | alternative ha hoffers => exact ⟨_, ha, s, hoffers, hs⟩
  · rintro ⟨a, ha, s, hoffers, hs⟩
    exact ⟨s, .alternative ha hoffers, hs⟩

lemma exists_offers_of_not_union {shape : Shape} (h : shape.isUnion = false) :
    (∃ s, shape.Offers s ∧ P s) ↔ P shape := by
  constructor
  · rintro ⟨s, hoffers, hs⟩
    cases hoffers with
    | self => exact hs
    | alternative => exact Bool.noConfusion h
  · exact fun hs => ⟨shape, .self shape, hs⟩

lemma exists_tries_union {alternatives : List Shape} (hself : ¬ P (.union alternatives)) :
    (∃ s, Tries (.union alternatives) s ∧ P s) ↔ ∃ a ∈ alternatives, ∃ s, a.Tries s ∧ P s := by
  constructor
  · rintro ⟨s, htries, hs⟩
    cases htries with
    | self => exact absurd hs hself
    | alternative ha htries => exact ⟨_, ha, s, htries, hs⟩
  · rintro ⟨a, ha, s, htries, hs⟩
    exact ⟨s, .alternative ha htries, hs⟩

lemma exists_tries_optional {inner : Shape} (hself : ¬ P (.optional inner)) :
    (∃ s, Tries (.optional inner) s ∧ P s) ↔ ∃ s, inner.Tries s ∧ P s := by
  constructor
  · rintro ⟨s, htries, hs⟩
    cases htries with
    | self => exact absurd hs hself
    | inner htries => exact ⟨s, htries, hs⟩
  · rintro ⟨s, htries, hs⟩
    exact ⟨s, .inner htries, hs⟩

/-! ## What is seen -/

lemma anyNullable_iff (alternatives : List Shape) :
    anyNullable alternatives = true ↔ ∃ a ∈ alternatives, a.isNullable = true := by
  induction alternatives with
  | nil => simp [anyNullable]
  | cons a rest ih => rw [anyNullable, Bool.or_eq_true, ih, List.exists_mem_cons_iff]

/-- **What is seen**: through its unions the shape comes to one that takes null or must be absent,
the shape of every value aside. -/
theorem isNullable_iff (shape : Shape) :
    shape.isNullable = true ↔
      ∃ s, shape.Offers s ∧ (s = .nothing ∨ (s.takesNull = true ∧ s ≠ .any)) := by
  induction shape using byParts with
  | union alternatives ih =>
      rw [isNullable, anyNullable_iff, exists_offers_union (by simp [takesNull])]
      exact exists_congr fun a => and_congr_right (ih a)
  | _ => rw [exists_offers_of_not_union rfl]; simp [isNullable, takesNull]

/-! ## The match with null -/

lemma equal_null_iff (v : Value) : Value.null.equal v = true ↔ v = .null := by
  cases v <;> simp [Value.equal]

lemma conforms_literal_null_iff (v : Value) : Conforms (.literal v) .null ↔ v = .null := by
  constructor
  · intro h
    cases h with
    | scalar _ hequal => exact (equal_null_iff v).mp hequal
    | arrayTemplate h => cases h
    | mapTemplate h => cases h
  · rintro rfl
    exact .scalar rfl rfl

/-- **Null conforms** to a shape that comes to one that takes null. -/
theorem conforms_null_iff (shape : Shape) :
    shape.Conforms .null ↔ ∃ s, shape.Offers s ∧ s.takesNull = true := by
  induction shape using byParts with
  | union alternatives ih =>
      rw [exists_offers_union (by simp [takesNull])]
      constructor
      · intro h
        cases h with
        | union ha hconforms => exact ⟨_, ha, (ih _ ha).mp hconforms⟩
      · rintro ⟨a, ha, hoffers⟩
        exact .union ha ((ih a ha).mpr hoffers)
  | exact kind =>
      rw [exists_offers_of_not_union rfl, takesNull, Kind.isNull, decide_eq_true_iff]
      constructor
      · intro h
        cases h with
        | exact hkind => exact hkind.symm
      · rintro rfl
        exact .exact rfl
  | literal v =>
      rw [exists_offers_of_not_union rfl, conforms_literal_null_iff]
      cases v <;> simp [takesNull, Value.isNull]
  | optional inner _ =>
      rw [exists_offers_of_not_union rfl]
      exact iff_of_true (.optionalNull rfl) rfl
  | any =>
      rw [exists_offers_of_not_union rfl]
      exact iff_of_true .any rfl
  | _ =>
      rw [exists_offers_of_not_union rfl]
      exact iff_of_false (by rintro ⟨⟩) Bool.noConfusion

lemma violates_literal_null_iff (v : Value) : Violates (.literal v) .null ↔ v = .array [] := by
  constructor
  · intro h
    cases h with
    | emptyTemplate => rfl
    | arrayTemplate h => cases h
    | mapTemplate h => cases h
  · rintro rfl
    exact .emptyTemplate

/-- **Null is a violation** of a shape that tries it on a pattern or on an empty template. -/
theorem violates_null_iff (shape : Shape) :
    shape.Violates .null ↔ ∃ s, shape.Tries s ∧ s.isMisusedByNull = true := by
  induction shape using byParts with
  | union alternatives ih =>
      rw [exists_tries_union (by simp [isMisusedByNull])]
      constructor
      · intro h
        cases h with
        | union ha hviolates => exact ⟨_, ha, (ih _ ha).mp hviolates⟩
      · rintro ⟨a, ha, htries⟩
        exact .union ha ((ih a ha).mpr htries)
  | optional inner ih =>
      rw [exists_tries_optional (by simp [isMisusedByNull]), ← ih]
      constructor
      · intro h
        cases h with
        | optional h =>
            cases h with
            | union ha hviolates =>
                rw [List.mem_pair] at ha
                rcases ha with rfl | rfl
                · exact hviolates
                · cases hviolates
      · exact fun h => .optional (.union List.mem_cons_self h)
  | pattern p => exact iff_of_true (.pattern (by simp)) ⟨_, .self _, rfl⟩
  | literal v =>
      rw [violates_literal_null_iff]
      constructor
      · rintro rfl
        exact ⟨_, .self _, rfl⟩
      · rintro ⟨s, htries, hs⟩
        cases htries
        cases v with
        | array items => cases items <;> simp [isMisusedByNull] at hs ⊢
        | _ => exact Bool.noConfusion hs
  | _ =>
      refine iff_of_false (by rintro ⟨⟩) ?_
      rintro ⟨s, htries, hs⟩
      cases htries
      exact Bool.noConfusion hs

lemma accepts_null_iff (shape : Shape) (settings : Settings) :
    shape.accepts .null settings = .ok true ↔
      (¬ ∃ s, shape.Tries s ∧ s.isMisusedByNull = true) ∧
        ∃ s, shape.Offers s ∧ s.takesNull = true := by
  rw [(shape.accepts_iff .null settings).2.1, violates_null_iff, conforms_null_iff]

/-! ## Seen and accepted -/

lemma isUnion_eq_false_of_not_isRequired {shape : Shape} (h : shape.isRequired = false) :
    shape.isUnion = false := by
  cases shape with
  | union alternatives => exact Bool.noConfusion h
  | _ => rfl

/-- Apart from unions, what is seen is so. -/
lemma accepts_null_of_not_union {shape : Shape} (h : shape.isNullable = true)
    (hunion : shape.isUnion = false) (settings : Settings) :
    shape.accepts .null settings = .ok true ∨ shape.isRequired = false := by
  rw [isNullable_iff, exists_offers_of_not_union hunion] at h
  cases shape with
  | exact kind =>
      obtain rfl : kind = .null := by simpa [takesNull, Kind.isNull] using h
      exact .inl rfl
  | literal v =>
      cases v with
      | null => exact .inl rfl
      | _ => simp [takesNull, Value.isNull] at h
  | optional inner => exact .inr rfl
  | nothing => exact .inr rfl
  | _ => simp [takesNull] at h

/-- **When null or absence is accepted as seen**: unless the shape is a union always, and of a union
exactly if it can be tried on null and comes to a shape that takes null.  A shape of no value among
the alternatives is not enough for that. -/
theorem accepts_null_of_isNullable {shape : Shape} (h : shape.isNullable = true)
    (settings : Settings) :
    (shape.accepts .null settings = .ok true ∨ shape.isRequired = false) ↔
      shape.isUnion = false ∨
        ((¬ ∃ s, shape.Tries s ∧ s.isMisusedByNull = true) ∧
          ∃ s, shape.Offers s ∧ s.takesNull = true) := by
  rw [← accepts_null_iff shape settings]
  constructor
  · rintro (haccepts | hrequired)
    · exact .inr haccepts
    · exact .inl (isUnion_eq_false_of_not_isRequired hrequired)
  · rintro (hunion | haccepts)
    · exact accepts_null_of_not_union h hunion settings
    · exact .inl haccepts

/-- Null behind a shape of no value, and in a union of its own. -/
theorem accepts_null_of_isNullable_of_nested :
    let shape : Shape := .union [.nothing, .exact .text, .union [.literal .null]]
    shape.isNullable = true ∧
      (shape.accepts .null .usual = .ok true ∨ shape.isRequired = false) := by
  intro shape
  have hmisused : ¬ ∃ s, shape.Tries s ∧ s.isMisusedByNull = true := by
    rw [← violates_null_iff, ← (shape.accepts_iff .null .usual).1]
    rintro ⟨violation, hviolation⟩
    cases hviolation
  have hlast : union [.literal .null] ∈ [.nothing, .exact .text, union [.literal .null]] :=
    List.mem_cons_of_mem _ (List.mem_cons_of_mem _ List.mem_cons_self)
  have htakes : ∃ s, shape.Offers s ∧ s.takesNull = true :=
    ⟨.literal .null, .alternative hlast (.alternative List.mem_cons_self (.self _)), rfl⟩
  exact ⟨rfl, (accepts_null_of_isNullable rfl .usual).mpr (.inr ⟨hmisused, htakes⟩)⟩

/-- A union that is refused although it accepts neither null nor absence, and one that is violated
by null. -/
theorem not_accepts_null_of_isNullable :
    let shape : Shape := .union [.nothing, .exact .text]
    let violated : Shape := .union [.exact .null, .literal (.array [])]
    (optional? shape = .error (.alreadyNullable shape.inspect) ∧ shape.isNullable = true ∧
      shape.accepts .null .usual = .ok false ∧ shape.isRequired = true) ∧
    optional? violated = .error (.alreadyNullable violated.inspect) ∧
      violated.isNullable = true ∧
      violated.accepts .null .usual = .error ⟨.emptyTemplate, []⟩ ∧ violated.isRequired = true :=
  ⟨⟨rfl, rfl, rfl, rfl⟩, rfl, rfl, rfl, rfl⟩

/-! ## Accepted and seen -/

lemma optional?_eq_error {shape : Shape} (h : shape.isNullable = true) :
    optional? shape = .error (.alreadyNullable shape.inspect) := by
  rw [optional?, if_pos h]

lemma optional?_eq_ok_iff (shape o : Shape) :
    optional? shape = .ok o ↔ shape.isNullable = false ∧ o = .optional shape := by
  rw [optional?]
  cases shape.isNullable <;> simp [eq_comm]

/-- **What accepts null is seen to**, and refused inside an optional shape, as long as the shape
does not come to that of every value through its unions.  So where an optional shape is built around
such a shape, the shape inside does not accept null; if the whole does, the shape inside has found
null not to fit. -/
theorem isNullable_of_accepts_null {shape : Shape} (hany : ¬ shape.Offers .any)
    (settings : Settings) :
    (shape.accepts .null settings = .ok true →
      shape.isNullable = true ∧ optional? shape = .error (.alreadyNullable shape.inspect)) ∧
    ∀ o, optional? shape = .ok o → shape.accepts .null settings ≠ .ok true ∧
      (o.accepts .null settings = .ok true → shape.accepts .null settings = .ok false) := by
  have hseen : shape.accepts .null settings = .ok true → shape.isNullable = true := by
    intro haccepts
    obtain ⟨-, s, hoffers, htakes⟩ := (accepts_null_iff shape settings).mp haccepts
    refine (isNullable_iff shape).mpr ⟨s, hoffers, .inr ⟨htakes, ?_⟩⟩
    rintro rfl
    exact hany hoffers
  refine ⟨fun haccepts => ⟨hseen haccepts, optional?_eq_error (hseen haccepts)⟩, ?_⟩
  rintro o ho
  obtain ⟨hnot, rfl⟩ := (optional?_eq_ok_iff shape o).mp ho
  have hrejects : shape.accepts .null settings ≠ .ok true := by
    intro haccepts
    exact Bool.noConfusion (hnot.symm.trans (hseen haccepts))
  refine ⟨hrejects, fun haccepts => ?_⟩
  have hopen : ¬ shape.Violates .null := by
    rw [violates_null_iff, ← exists_tries_optional (by simp [isMisusedByNull])]
    exact ((accepts_null_iff _ settings).mp haccepts).1
  obtain ⟨verdict, hverdict⟩ :=
    (exists_accepts_eq_ok_iff shape .null settings).mpr (by rwa [stopped_walk_iff])
  cases verdict with
  | true => exact absurd hverdict hrejects
  | false => exact hverdict

/-- An optional shape among alternatives, which is refused, and a template, which is not: null is
accepted beside it only. -/
theorem isNullable_of_accepts_null_of_alternatives :
    let shape : Shape := .union [.exact .text, .optional .any]
    let template : Shape := .literal (.map [(.text "a", .null)])
    (¬ shape.Offers .any ∧ shape.accepts .null .usual = .ok true ∧
      optional? shape = .error (.alreadyNullable shape.inspect)) ∧
    ¬ template.Offers .any ∧ optional? template = .ok (.optional template) ∧
      (Shape.optional template).accepts .null .usual = .ok true ∧
      template.accepts .null .usual = .ok false := by
  intro shape template
  have hshape : ¬ (union [.exact .text, .optional .any]).Offers .any := by
    intro h
    cases h with
    | alternative ha h =>
        rw [List.mem_pair] at ha
        rcases ha with rfl | rfl <;> cases h
  have htemplate : ¬ (literal (.map [(.text "a", .null)])).Offers .any := by rintro ⟨⟩
  exact ⟨⟨hshape, rfl, ((isNullable_of_accepts_null hshape .usual).1 rfl).2⟩, htemplate, rfl, rfl,
    ((isNullable_of_accepts_null htemplate .usual).2 _ rfl).2 rfl⟩

end Shape

end DataShape
