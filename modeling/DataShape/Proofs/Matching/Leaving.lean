import DataShape.Proofs.Matching.FirstViolation

/-!
# Where a match leaves a session

A match goes down to a part of the value with a step on the path, and takes the step back when it
has the verdict on the part.  So a match with a verdict has taken all its steps back.  But a
violation ends the match at once, and the steps that were taken by then stay on the path.  Steps
below alternatives are taken in forks, and are dropped with them.

So a session that is used further after a violation records at the place of the violation or on the
way there, unless the shape is misused where the match was begun or tries alternatives there.

* `Shape.descends` — shapes that go down to parts of a value.
* `Shape.Leads.toChoice_path_eq_nil_iff` — the steps that are left on the way to a misuse.
* `Session.path_examine` — **the path after a match**, and where it matters.
-/

namespace DataShape

/-! ## Shapes that go down -/

namespace Shape

/-- The shape goes down from a value to its parts: from an array to its items, or from a map to its
declared fields.  The alternatives of a union do as well, but in forks. -/
def descends : Shape → Bool
  | .sequence _ => true
  | .record _ => true
  | .literal (.array (_ :: _)) => true
  | .literal (.map _) => true
  | _ => false

variable {shape place : Shape} {v part : Value} {route : Route} {cause : Violation.Cause}

/-- No step is left on the way to a misuse if it is at the place itself, or in an alternative. -/
lemma Leads.toChoice_path_eq_nil_iff (h : shape.Leads v route place part)
    (hmisused : place.Misused part cause) :
    route.toChoice.path = [] ↔ shape.descends = false := by
  cases h with
  | here => cases hmisused <;> exact iff_of_true rfl rfl
  | item => exact iff_of_false (List.cons_ne_nil _ _) Bool.noConfusion
  | entry => exact iff_of_false (List.cons_ne_nil _ _) Bool.noConfusion
  | alternative => exact iff_of_true rfl rfl
  | optional h =>
      cases h with
      | here => cases hmisused
      | alternative => exact iff_of_true rfl rfl
  | arrayTemplate h =>
      cases h with
      | here => cases hmisused
      | item => exact iff_of_false (List.cons_ne_nil _ _) Bool.noConfusion
  | mapTemplate h =>
      cases h with
      | here => cases hmisused
      | entry => exact iff_of_false (List.cons_ne_nil _ _) Bool.noConfusion

end Shape

/-! ## The path of a session -/

namespace Session

variable {s : Session} {shape : Shape} {v : Value}

/-- A match with a verdict has taken all its steps back. -/
lemma path_examine_of_ok {verdict : Bool} (h : (s.examine shape v).2 = .ok verdict) :
    (s.examine shape v).1.path = s.path := by
  rw [(examine_eq_of_ok h).1]
  rfl

/-- A violation leaves the steps to the misuse, or to the first alternatives on the way. -/
lemma exists_path_examine_of_error {violation : Violation}
    (h : (s.examine shape v).2 = .error violation) :
    ∃ route place part, shape.FirstMisuse v route place part violation.cause ∧
      (s.examine shape v).1.path = s.path ++ route.toChoice.path := by
  rw [examine_eq, Walk.replay] at h ⊢
  cases hending : (shape.walk v).ending with
  | ok verdict => simp [hending] at h
  | error stop =>
      obtain ⟨route, place, part, hfirst, -, hleft⟩ := Shape.exists_stopsAt hending
      simp only [hending, Except.error.injEq] at h ⊢
      exact ⟨route, place, part, h ▸ hfirst, by rw [hleft]⟩

/-- A session is back where it was unless a violation was met below it. -/
lemma path_examine_eq_iff (s : Session) (shape : Shape) (v : Value) :
    (s.examine shape v).1.path = s.path ↔ ¬ (shape.descends = true ∧ shape.Violates v) := by
  cases hresult : (s.examine shape v).2 with
  | ok verdict =>
      have hopen := (exists_result_examine_eq_ok_iff s shape v).mp ⟨verdict, hresult⟩
      rw [Shape.stopped_walk_iff] at hopen
      exact iff_of_true (path_examine_of_ok hresult) fun h => hopen h.2
  | error violation =>
      obtain ⟨route, place, part, hfirst, hpath⟩ := exists_path_examine_of_error hresult
      have hviolates := hfirst.leads.violates hfirst.misused
      rw [hpath, List.append_right_eq_self,
        hfirst.leads.toChoice_path_eq_nil_iff hfirst.misused, and_iff_left hviolates,
        Bool.not_eq_true]

lemma path_prefix_examine (s : Session) (shape : Shape) (v : Value) :
    s.path <+: (s.examine shape v).1.path := by
  rw [examine_eq, Walk.replay]
  cases (shape.walk v).ending with
  | ok verdict => exact List.prefix_rfl
  | error stop => exact List.prefix_append s.path stop.left

/-- A mismatch that is recorded next is found at the path where the match was begun, just if the
session is back there. -/
lemma messagesAt_record_examine_iff (s : Session) (shape : Shape) (v : Value) (m : Mismatch) :
    ((s.examine shape v).1.record m).report.messagesAt s.path =
        (s.examine shape v).1.report.messagesAt s.path ++ [m.message] ↔
      (s.examine shape v).1.path = s.path := by
  obtain ⟨left, hleft⟩ := s.path_prefix_examine shape v
  have hnames : ∀ mark : String,
      (s.path ++ left).render mark = s.path.render mark ↔ s.path ++ left = s.path := by
    intro mark
    rw [Path.render_append, List.append_right_eq_self, List.append_right_eq_self, Path.render,
      List.map_eq_nil_iff]
  rw [record, Report.messagesAt_add, List.append_cancel_left_eq, ← hleft]
  by_cases h : s.path ++ left = s.path
  · rw [if_pos ((hnames _).mpr h)]
    exact iff_of_true rfl h
  · rw [if_neg (mt (hnames _).mp h)]
    exact iff_of_false (List.cons_ne_nil _ _).symm h

/-- **The path after a match.**  With a verdict, it is what it was before.  After a violation there
are steps left on it: those to the first misuse, or to the first alternatives on the way, as these
are tried in forks.  So the session is back where it was, unless the shape goes down to a part of
the value by itself and the value violates it; and just if it is, a mismatch that is recorded next
is found at the path where the match was begun. -/
theorem path_examine (s : Session) (shape : Shape) (v : Value) :
    (∀ verdict, (s.examine shape v).2 = .ok verdict → (s.examine shape v).1.path = s.path) ∧
    (∀ violation, (s.examine shape v).2 = .error violation →
      ∃ route place part, shape.FirstMisuse v route place part violation.cause ∧
        (s.examine shape v).1.path = s.path ++ route.toChoice.path) ∧
    ((s.examine shape v).1.path = s.path ↔ ¬ (shape.descends = true ∧ shape.Violates v)) ∧
    ∀ m : Mismatch, ((s.examine shape v).1.record m).report.messagesAt s.path =
        (s.examine shape v).1.report.messagesAt s.path ++ [m.message] ↔
      (s.examine shape v).1.path = s.path :=
  ⟨fun _ => path_examine_of_ok, fun _ => exists_path_examine_of_error,
    s.path_examine_eq_iff shape v, s.messagesAt_record_examine_iff shape v⟩

/-- A match with the verdict that an item is a misfit, and one with a violation in an item that is
met in an alternative, both in a session that is under way. -/
theorem path_examine_of_runs :
    let s := ((new .usual).push (.key "in")).record .forbiddenKey
    let choice := Shape.optional (.sequence (.literal (.array [])))
    let v := Value.array [.null]
    let after := (s.examine choice v).1
    ((s.examine (.sequence .nothing) v).2 = .ok false ∧
      (s.examine (.sequence .nothing) v).1.path = s.path) ∧
    (s.examine choice v).2 = .error ⟨.emptyTemplate, [.key "in", .index 0]⟩ ∧
    after.path = s.path ∧
    (after.record .forbiddenKey).report.messagesAt s.path =
      after.report.messagesAt s.path ++ [Mismatch.forbiddenKey.message] := by
  intro s choice v after
  have hback : after.path = s.path :=
    (path_examine s choice v).2.2.1.mpr fun h => Bool.noConfusion h.1
  have hverdict : (s.examine (.sequence .nothing) v).2 = .ok false := rfl
  exact ⟨⟨hverdict, (path_examine s (.sequence .nothing) v).1 false hverdict⟩, rfl, hback,
    ((path_examine s choice v).2.2.2 .forbiddenKey).mpr hback⟩

/-- **After a violation in an item, a session is left at the item.**  What is recorded next comes
there, and nothing comes to the path where the match was begun. -/
theorem path_examine_ne :
    let s := new .usual
    let shape := Shape.record [("a", .sequence (.literal (.array [])))]
    let v := Value.map [(.text "a", .array [.null])]
    let after := (s.examine shape v).1
    (s.examine shape v).2 = .error ⟨.emptyTemplate, [.key "a", .index 0]⟩ ∧
    s.path = [] ∧ after.path = [.key "a", .index 0] ∧ after.path ≠ s.path ∧
    (after.record .forbiddenKey).report.messagesAt [] = [] ∧
    (after.record .forbiddenKey).report.messagesAt [.key "a", .index 0] =
      [Mismatch.forbiddenKey.message] := ⟨rfl, rfl, rfl, List.cons_ne_nil _ _, rfl, rfl⟩

end Session

end DataShape
