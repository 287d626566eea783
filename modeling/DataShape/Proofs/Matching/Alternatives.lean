import DataShape.Proofs.Matching.FirstViolation

/-!
# Alternatives

A union tries all its alternatives, each in a fork of the session, so no alternative learns of
another one, and none leaves anything behind.  All that is used of a trial is its result: a verdict
or a violation.  If none is violated and none fits, the union records one mismatch, which names
every alternative once, by how it was declared.

What a union makes of the results does not depend on how the alternatives are grouped, and not on
their order either, but for this: of several violations it is the first that is reported.

* `Rejected.ofAlternatives_eq` — rejected alternatives, by how they were declared.
* `Walk.tried_eq_error_iff_firstStopped` — the alternative whose violation is reported.
* `Walk.tried_nest` — alternatives of a union inside a union are alternatives of the outer one.
* `Session.examine_union` — **what a union makes of a session**, by the trials of its alternatives.
* `Shape.accepts_union` — **unions with the same verdicts**.
-/

namespace DataShape

/-! ## Rejected alternatives -/

namespace Shape

/-- The alternative is one kind. -/
def isKind : Shape → Bool
  | .exact _ => true
  | _ => false

/-- The alternative is a literal that values are compared with; templates are not. -/
def isScalarLiteral : Shape → Bool
  | .literal v => v.isScalar
  | _ => false

lemma inspect_exact (kind : Kind) : inspect (.exact kind) = kind.name := String.ofList_toList

lemma inspect_literal (v : Value) : inspect (.literal v) = v.inspect := rfl

end Shape

namespace Rejected

open Shape (isKind isScalarLiteral inspect)

/-- Every alternative is listed by the text that shows it, in one of three lists. -/
lemma add_eq (a : Shape) (r : Rejected) :
    r.add a =
      if a.isKind then { r with kinds := a.inspect :: r.kinds }
      else if a.isScalarLiteral then { r with literals := a.inspect :: r.literals }
      else { r with shapes := a.inspect :: r.shapes } := by
  cases a with
  | exact kind => rw [Shape.inspect_exact]; rfl
  | literal v => rw [Shape.inspect_literal]; rfl
  | _ => rfl

lemma count_add (a : Shape) (r : Rejected) : (r.add a).count = r.count + 1 := by
  rw [add_eq]
  split_ifs
  all_goals
    simp only [count, List.length_cons]
    omega

/-- **Rejected alternatives, by how they were declared**, and in the order of declaration. -/
lemma ofAlternatives_eq (alternatives : List Shape) :
    ofAlternatives alternatives =
      { shapes := (alternatives.filter fun a => !a.isKind && !a.isScalarLiteral).map inspect
        kinds := (alternatives.filter isKind).map inspect
        literals := (alternatives.filter isScalarLiteral).map inspect } := by
  induction alternatives with
  | nil => rfl
  | cons a rest ih =>
      have hcons : ofAlternatives (a :: rest) = (ofAlternatives rest).add a := rfl
      have hone : a.isKind = true → a.isScalarLiteral = false := by
        cases a <;> simp [isKind, isScalarLiteral]
      rw [hcons, ih, add_eq, List.filter_cons, List.filter_cons, List.filter_cons]
      cases hkind : a.isKind with
      | true => simp [hone hkind]
      | false => cases a.isScalarLiteral <;> simp

/-- Each alternative is listed once, also one that is declared twice. -/
lemma count_ofAlternatives (alternatives : List Shape) :
    (ofAlternatives alternatives).count = alternatives.length := by
  induction alternatives with
  | nil => rfl
  | cons a rest ih => rw [ofAlternatives, List.foldr_cons, ← ofAlternatives, count_add, ih]; rfl

end Rejected

/-! ## Walks that are tried -/

namespace Walk

variable {walks : List Walk}

lemma FirstStopped.tried_eq {position : Nat} {stop : Stop} (h : FirstStopped walks position stop) :
    tried walks = .error stop.violation := by
  induction walks generalizing position with
  | nil =>
      obtain ⟨w, hw, -⟩ := h.stopped
      cases hw
  | cons first rest ih =>
      obtain ⟨w, hw, hending⟩ := h.stopped
      cases position with
      | zero =>
          cases hw
          rw [tried, hending]
      | succ position =>
          have hrest : FirstStopped rest position stop :=
            ⟨⟨w, hw, hending⟩, fun earlier hlt other hother =>
              h.before (earlier + 1) (Nat.succ_lt_succ hlt) other hother⟩
          cases hfirst : first.ending with
          | error inner => exact absurd ⟨inner, hfirst⟩ (h.before 0 (Nat.succ_pos _) first rfl)
          | ok fits =>
              rw [tried, hfirst, ih hrest]
              rfl

/-- **The violation is that of the first alternative that has one**, whatever fits beside it. -/
lemma tried_eq_error_iff_firstStopped (violation : Violation) :
    tried walks = .error violation ↔
      ∃ position stop, FirstStopped walks position stop ∧ stop.violation = violation := by
  constructor
  · exact exists_firstStopped_tried
  · rintro ⟨position, stop, hfirst, rfl⟩
    exact hfirst.tried_eq

lemma tried_eq_ok_iff (fits : Bool) :
    tried walks = .ok fits ↔ (∀ w ∈ walks, ¬ w.Stopped) ∧ (fits = true ↔ ∃ w ∈ walks, w.Fits) := by
  have hstopped := tried_eq_error_iff walks
  cases htried : tried walks with
  | error violation =>
      rw [htried] at hstopped
      obtain ⟨w, hw, hwStopped⟩ := hstopped.mp ⟨violation, rfl⟩
      exact iff_of_false (by rintro ⟨⟩) fun h => h.1 w hw hwStopped
  | ok own =>
      have hopen : ∀ w ∈ walks, ¬ w.Stopped := by
        intro w hw hwStopped
        obtain ⟨violation, hviolation⟩ := hstopped.mpr ⟨w, hw, hwStopped⟩
        cases htried.symm.trans hviolation
      rw [Except.ok.injEq, and_iff_right hopen, ← tried_eq_ok htried, eq_comm, Bool.eq_iff_iff]

lemma tried_append (walks more : List Walk) :
    tried (walks ++ more) =
      match tried walks with
      | .error violation => .error violation
      | .ok fits => (tried more).map (fits || ·) := by
  induction walks with
  | nil =>
      rw [List.nil_append, tried]
      cases tried more <;> simp [Except.map]
  | cons w rest ih =>
      rw [List.cons_append, tried, tried]
      cases w.ending with
      | error stop => rfl
      | ok fits =>
          simp only [ih]
          cases tried rest with
          | error violation => rfl
          | ok others => cases tried more <;> simp [Except.map, Bool.or_assoc]

lemma tried_singleton (w : Walk) : tried [w] = w.ending.mapError (·.violation) := by
  rw [tried, tried]
  cases w.ending <;> simp [Except.map, Except.mapError]

/-- A union that is tried has the result of its alternatives. -/
lemma ending_anyOf (rejection : Mismatch) (walks : List Walk) :
    (anyOf rejection walks).ending.mapError (·.violation) = tried walks := by
  rw [anyOf]
  cases tried walks with
  | error violation => rfl
  | ok fits => cases fits <;> rfl

/-- **The alternatives of an alternative** may be tried along with the others. -/
lemma tried_nest (rejection : Mismatch) (before inner after : List Walk) :
    tried (before ++ [anyOf rejection inner] ++ after) = tried (before ++ inner ++ after) := by
  rw [tried_append, tried_append, tried_append, tried_append before inner, tried_singleton,
    ending_anyOf]

end Walk

/-! ## Sessions -/

namespace Session

/-- A union leaves a session alone, unless it ends with the verdict that none fits. -/
lemma examine_union_eq (s : Session) (alternatives : List Shape) (v : Value) :
    s.examine (.union alternatives) v =
      match Walk.tried (alternatives.map fun a => a.walk v) with
      | .error violation => (s, .error (violation.from s.path))
      | .ok true => (s, .ok true)
      | .ok false => (s.record (.ofAlternatives alternatives v), .ok false) := by
  rw [examine_eq, Shape.walk_union, Walk.replay, Walk.anyOf]
  cases Walk.tried (alternatives.map fun a => a.walk v) with
  | error violation => simp
  | ok fits =>
      cases fits with
      | true => rfl
      | false => simp [Walk.miss, collect, logOf, record]

lemma appends_record (s : Session) (m : Mismatch) :
    s.Appends (s.record m) [(s.path, m.message)] := by
  have h := s.appends_collect [([], m)]
  have hlog : s.logOf [([], m)] = [(s.path, m.message)] := by
    rw [logOf, List.map_singleton, List.append_nil]
  have hafter : s.collect [([], m)] = s.record m := by
    rw [collect, hlog]
    rfl
  rwa [hlog, hafter] at h

/-- The violation of a union is that of the first alternative that is violated. -/
lemma result_examine_union_eq_error_iff (s : Session) (alternatives : List Shape) (v : Value)
    (violation : Violation) :
    (s.examine (.union alternatives) v).2 = .error violation ↔
      ∃ (position : Nat) (a : Shape), alternatives[position]? = some a ∧
        (s.fork.examine a v).2 = .error violation ∧
        ∀ earlier < position, ∀ other, alternatives[earlier]? = some other →
          ∃ fits, (s.fork.examine other v).2 = .ok fits := by
  have hunion : (s.examine (.union alternatives) v).2 = .error violation ↔
      ∃ inner, Walk.tried (alternatives.map fun a => a.walk v) = .error inner ∧
        inner.from s.path = violation := by
    rw [examine_union_eq]
    cases Walk.tried (alternatives.map fun a => a.walk v) with
    | error inner => simp
    | ok fits => cases fits <;> simp
  simp only [hunion, Walk.tried_eq_error_iff_firstStopped]
  constructor
  · rintro ⟨_, ⟨position, stop, ⟨⟨w, hw, hending⟩, hbefore⟩, rfl⟩, rfl⟩
    rw [List.getElem?_map, Option.map_eq_some_iff] at hw
    obtain ⟨a, ha, rfl⟩ := hw
    refine ⟨position, a, ha, ?_, fun earlier hlt other hother => ?_⟩
    · exact (result_examine_eq_error_iff _ _ _ _).mpr ⟨stop, hending, rfl⟩
    · rw [exists_result_examine_eq_ok_iff]
      exact hbefore earlier hlt _ (by rw [List.getElem?_map, hother, Option.map_some])
  · rintro ⟨position, a, ha, herror, hbefore⟩
    obtain ⟨stop, hending, hviolation⟩ := (result_examine_eq_error_iff _ _ _ _).mp herror
    have hfirst : Walk.FirstStopped (alternatives.map fun a => a.walk v) position stop := by
      refine ⟨⟨a.walk v, by rw [List.getElem?_map, ha, Option.map_some], hending⟩, ?_⟩
      intro earlier hlt w hw
      rw [List.getElem?_map, Option.map_eq_some_iff] at hw
      obtain ⟨other, hother, rfl⟩ := hw
      exact (exists_result_examine_eq_ok_iff _ _ _).mp (hbefore earlier hlt other hother)
    exact ⟨stop.violation, ⟨position, stop, hfirst, rfl⟩, hviolation⟩

/-- A union has a verdict if all its alternatives have one. -/
lemma result_examine_union_eq_ok_iff (s : Session) (alternatives : List Shape) (v : Value)
    (fits : Bool) :
    (s.examine (.union alternatives) v).2 = .ok fits ↔
      (∀ a ∈ alternatives, ∃ own, (s.fork.examine a v).2 = .ok own) ∧
      (fits = true ↔ ∃ a ∈ alternatives, (s.fork.examine a v).2 = .ok true) := by
  have hunion : (s.examine (.union alternatives) v).2 = .ok fits ↔
      Walk.tried (alternatives.map fun a => a.walk v) = .ok fits := by
    rw [examine_union_eq]
    cases Walk.tried (alternatives.map fun a => a.walk v) with
    | error inner => simp
    | ok own => cases own <;> simp
  rw [hunion, Walk.tried_eq_ok_iff, List.forall_mem_map]
  simp only [exists_result_examine_eq_ok_iff]
  simp only [result_examine_eq_ok_iff, Walk.Fits, List.mem_map, exists_exists_and_eq_and]

/-- A union leaves a session alone, unless none of its alternatives fits. -/
lemma examine_union_eq_self {s : Session} {alternatives : List Shape} {v : Value}
    (h : (s.examine (.union alternatives) v).2 ≠ .ok false) :
    (s.examine (.union alternatives) v).1 = s := by
  rw [examine_union_eq] at h ⊢
  cases htried : Walk.tried (alternatives.map fun a => a.walk v) with
  | error violation => rfl
  | ok fits =>
      cases fits with
      | true => rfl
      | false => simp [htried] at h

/-- A union of which no alternative fits records one mismatch. -/
lemma examine_union_eq_record {s : Session} {alternatives : List Shape} {v : Value}
    (h : (s.examine (.union alternatives) v).2 = .ok false) :
    (s.examine (.union alternatives) v).1 = s.record (.ofAlternatives alternatives v) := by
  rw [examine_union_eq] at h ⊢
  cases htried : Walk.tried (alternatives.map fun a => a.walk v) with
  | error violation => simp [htried] at h
  | ok fits =>
      cases fits with
      | true => simp [htried] at h
      | false => rfl

/-- **What a union makes of a session**, by what its alternatives come to in forks, which are at the
same path.  The union is violated if an alternative is, by the first that is, even if another one
fits.  Otherwise it has a verdict, which is whether one of them fits.  The session stays as it is,
path and report, unless none fits.  Then one message is recorded at the current path, and no other:
it lists every alternative once, in the order of declaration, with the kinds, the scalar literals
and all others apart.  An optional shape is matched as the union of the shape inside and null. -/
theorem examine_union (s : Session) (alternatives : List Shape) (v : Value) :
    (∀ violation, (s.examine (.union alternatives) v).2 = .error violation ↔
      ∃ (position : Nat) (a : Shape), alternatives[position]? = some a ∧
        (s.fork.examine a v).2 = .error violation ∧
        ∀ earlier < position, ∀ other, alternatives[earlier]? = some other →
          ∃ fits, (s.fork.examine other v).2 = .ok fits) ∧
    (∀ fits, (s.examine (.union alternatives) v).2 = .ok fits ↔
      (∀ a ∈ alternatives, ∃ own, (s.fork.examine a v).2 = .ok own) ∧
      (fits = true ↔ ∃ a ∈ alternatives, (s.fork.examine a v).2 = .ok true)) ∧
    ((s.examine (.union alternatives) v).2 ≠ .ok false →
      (s.examine (.union alternatives) v).1 = s) ∧
    ((s.examine (.union alternatives) v).2 = .ok false → ∃ rejected,
      (s.examine (.union alternatives) v).1 = s.record (.noAlternative v.inspect rejected) ∧
      s.Appends (s.examine (.union alternatives) v).1
        [(s.path, (Mismatch.noAlternative v.inspect rejected).message)] ∧
      rejected.count = alternatives.length ∧
      rejected.kinds = (alternatives.filter Shape.isKind).map Shape.inspect ∧
      rejected.literals = (alternatives.filter Shape.isScalarLiteral).map Shape.inspect ∧
      rejected.shapes =
        (alternatives.filter fun a => !a.isKind && !a.isScalarLiteral).map Shape.inspect) ∧
    ∀ inner, s.examine (.optional inner) v = s.examine (.union [inner, .exact .null]) v := by
  refine ⟨s.result_examine_union_eq_error_iff alternatives v,
    s.result_examine_union_eq_ok_iff alternatives v, examine_union_eq_self, fun h => ?_,
    fun inner => ?_⟩
  · refine ⟨.ofAlternatives alternatives, examine_union_eq_record h, ?_,
      Rejected.count_ofAlternatives alternatives, ?_⟩
    · rw [examine_union_eq_record h]
      exact s.appends_record (.ofAlternatives alternatives v)
    · rw [Rejected.ofAlternatives_eq]
      exact ⟨rfl, rfl, rfl⟩
  · rw [examine_eq, examine_eq, Shape.walk_optional_eq_union]

/-- A value that fits no alternative, of which one is declared twice and one is a template; and a
violation behind an alternative that fits. -/
theorem examine_union_of_runs :
    let s := ((new .usual).push (.key "a")).record .forbiddenKey
    let alternatives : List Shape := [.literal (.integer 1), .exact .text,
      .literal (.array [.null]), .literal (.integer 1)]
    let violated : List Shape := [.any, .optional (.literal (.array [])), .exact .null]
    ((s.examine (.union alternatives) (.integer 2)).2 = .ok false ∧ ∃ rejected,
      (s.examine (.union alternatives) (.integer 2)).1 =
        s.record (.noAlternative (Value.integer 2).inspect rejected) ∧
      rejected.count = 4 ∧ rejected.kinds = [Kind.text.name] ∧
      rejected.literals = [(Value.integer 1).inspect, (Value.integer 1).inspect] ∧
      rejected.shapes = [(Value.array [.null]).inspect]) ∧
    (s.examine (.union violated) .null).2 = .error ⟨.emptyTemplate, [.key "a"]⟩ ∧
      (s.examine (.union violated) .null).2 ≠ .ok false ∧
      (s.examine (.union violated) .null).1 = s := by
  intro s alternatives violated
  have hfalse : (s.examine (.union alternatives) (.integer 2)).2 = .ok false := rfl
  have hopen : (s.examine (.union violated) .null).2 ≠ .ok false := by rintro ⟨⟩
  obtain ⟨rejected, hafter, -, hcount, hkinds, hliterals, hshapes⟩ :=
    (examine_union s alternatives (.integer 2)).2.2.2.1 hfalse
  exact ⟨⟨hfalse, rejected, hafter, hcount, hkinds, hliterals, hshapes⟩, rfl, hopen,
    (examine_union s violated .null).2.2.1 hopen⟩

end Session

/-! ## Unions with the same verdicts -/

namespace Shape

lemma accepts_union_eq (alternatives : List Shape) (v : Value) (settings : Settings) :
    accepts (.union alternatives) v settings =
      Walk.tried (alternatives.map fun a => a.walk v) := by
  rw [accepts_eq, walk_union, Walk.ending_anyOf]

/-- **Unions with the same verdicts.**  A union inside a union may be replaced by its alternatives,
and a union of one shape by that shape; verdicts and violations stay the same, these also in their
places.  Of the order of the alternatives, and of how often one is repeated, the verdict does not
depend, nor does it whether there is one. -/
theorem accepts_union (v : Value) (settings : Settings) :
    (∀ before inner after : List Shape,
      accepts (.union (before ++ [.union inner] ++ after)) v settings =
        accepts (.union (before ++ inner ++ after)) v settings) ∧
    (∀ s : Shape, accepts (.union [s]) v settings = s.accepts v settings) ∧
    ∀ alternatives others : List Shape, (∀ s, s ∈ alternatives ↔ s ∈ others) →
      (accepts (.union alternatives) v settings).toOption =
        (accepts (.union others) v settings).toOption := by
  refine ⟨fun before inner after => ?_, fun s => ?_, fun alternatives others h => ?_⟩
  · rw [accepts_union_eq, accepts_union_eq, List.map_append, List.map_append, List.map_append,
      List.map_append, List.map_singleton, walk_union, Walk.tried_nest]
  · rw [accepts_union_eq, List.map_singleton, Walk.tried_singleton, accepts_eq]
  · have hsome : ∀ P : Walk → Prop, (∃ w ∈ alternatives.map fun a => a.walk v, P w) ↔
        ∃ w ∈ others.map fun a => a.walk v, P w := by
      intro P
      simp only [List.mem_map, exists_exists_and_eq_and, h]
    rw [toOption_accepts, toOption_accepts, walk_union, walk_union]
    refine Walk.toOption_ending_eq ?_ ?_
    · rw [Walk.stopped_anyOf, Walk.stopped_anyOf, hsome]
    · rw [Walk.fits_anyOf, Walk.fits_anyOf, hsome, hsome]

/-- Alternatives in another order and with a repetition, once with a verdict and once with a
violation behind an alternative that fits. -/
theorem accepts_union_of_alternatives :
    let alternatives : List Shape := [.exact .text, .any, .sequence (.literal (.array []))]
    let others : List Shape := [.any, .sequence (.literal (.array [])), .any, .exact .text]
    (∀ s, s ∈ alternatives ↔ s ∈ others) ∧
    accepts (.union alternatives) .null .usual = .ok true ∧
    (accepts (.union alternatives) .null .usual).toOption =
      (accepts (.union others) .null .usual).toOption ∧
    accepts (.union alternatives) (.array [.null]) .usual =
      .error ⟨.emptyTemplate, [.index 0]⟩ ∧
    (accepts (.union alternatives) (.array [.null]) .usual).toOption =
      (accepts (.union others) (.array [.null]) .usual).toOption := by
  intro alternatives others
  have hsame : ∀ s, s ∈ alternatives ↔ s ∈ others := by
    intro s
    simp only [alternatives, others, List.mem_cons, List.not_mem_nil, or_false]
    tauto
  exact ⟨hsame, rfl, (accepts_union .null .usual).2.2 alternatives others hsame, rfl,
    (accepts_union (.array [.null]) .usual).2.2 alternatives others hsame⟩

end Shape

end DataShape
