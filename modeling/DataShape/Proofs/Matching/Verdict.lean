import DataShape.Proofs.Matching.Replay

/-!
# Verdict and findings

A match computes its verdict and records its findings by different means: the verdicts of the parts
are put together by conjunction and disjunction, while the findings go to a report that all parts
share, or, inside a union, to that of a fork.  The two never come apart: a match finds a fit exactly
if it finds no mismatch, so the verdict of a validation can be read off its report.

* `Walk.InStep` — the verdict is that there are no findings.
* `Shape.walk_inStep` — every walk is in step.
* `Session.Appends` — a session that differs from another by some new messages only.
* `Session.examine_inStep` — what a match with a verdict does to a session.
-/

namespace DataShape

/-! ## Walks in step -/

namespace Walk

/-- A verdict says that nothing was found. -/
def InStep (w : Walk) : Prop := ∀ verdict, w.ending = .ok verdict → verdict = w.found.isEmpty

lemma inStep_pass : InStep pass := by
  rintro verdict ⟨⟩
  rfl

lemma inStep_miss (m : Mismatch) : InStep (miss m) := by
  rintro verdict ⟨⟩
  rfl

lemma inStep_stop (cause : Violation.Cause) : InStep (stop cause) := by
  rintro verdict ⟨⟩

lemma InStep.under {w : Walk} (h : InStep w) (step : Segment) : InStep (w.under step) := by
  intro verdict hverdict
  cases hw : w.ending with
  | error stop => simp [Walk.under, hw, Except.mapError] at hverdict
  | ok other =>
      simp only [Walk.under, hw, Except.mapError, Except.ok.injEq] at hverdict
      rw [← hverdict, h other hw, Walk.under, Findings.under, List.isEmpty_map]

lemma InStep.andThen {first second : Walk} (h : InStep first) (h' : InStep second) :
    InStep (first.andThen second) := by
  intro verdict hverdict
  cases hfirst : first.ending with
  | error stop => simp [andThen_of_error hfirst, hfirst] at hverdict
  | ok one =>
      rw [andThen_of_ok hfirst] at hverdict ⊢
      cases hsecond : second.ending with
      | error stop => simp [hsecond, Except.map] at hverdict
      | ok other =>
          simp only [hsecond, Except.map, Except.ok.injEq] at hverdict
          rw [← hverdict, h one hfirst, h' other hsecond]
          cases first.found <;> simp

/-- Alternatives are in step whatever they find themselves: their findings are dropped. -/
lemma inStep_anyOf (rejection : Mismatch) (walks : List Walk) : InStep (anyOf rejection walks) := by
  rw [anyOf]
  cases tried walks with
  | error violation => rintro verdict ⟨⟩
  | ok verdict =>
      cases verdict with
      | true => exact inStep_pass
      | false => exact inStep_miss rejection

lemma kept_inStep : Kept InStep where
  pass := inStep_pass
  miss := inStep_miss
  stop := inStep_stop
  under step _ h := h.under step
  andThen _ _ h h' := h.andThen h'
  anyOf rejection walks _ := inStep_anyOf rejection walks

end Walk

/-- **Every walk is in step**: it ends with a fit exactly if it found no mismatch. -/
theorem Shape.walk_inStep (shape : Shape) (v : Value) : (shape.walk v).InStep :=
  Walk.kept_inStep.walk shape v

/-! ## Sessions -/

/-- The second session differs from the first by a log of new messages only: all of them are about
places at the current path or below it, they come after the messages that their places had, and
no message that was there is lost or moved. -/
structure Session.Appends (s after : Session) (log : List (Path × String)) : Prop where
  settings_eq : after.settings = s.settings
  path_eq : after.path = s.path
  below : ∀ entry ∈ log, s.path <+: entry.1
  messagesAt_eq : ∀ path, after.report.messagesAt path =
    s.report.messagesAt path ++ (log.filter fun entry =>
      entry.1.render s.report.indexMark = path.render s.report.indexMark).map (·.2)
  sublist : s.report.toList.Sublist after.report.toList
  perm : after.report.toList.Perm
    (s.report.toList ++ log.map fun entry => (entry.1.placeText s.report.indexMark, entry.2))

namespace Session

lemma appends_collect (s : Session) (found : Findings) :
    s.Appends (s.collect found) (s.logOf found) where
  settings_eq := rfl
  path_eq := rfl
  below := by
    intro entry hentry
    obtain ⟨finding, -, rfl⟩ := List.mem_map.mp hentry
    exact List.prefix_append s.path finding.1
  messagesAt_eq := s.report.messagesAt_addAll _
  sublist := s.report.toList_sublist_addAll _
  perm := s.report.toList_addAll_perm _

/-- A match with a verdict replays the findings of the walk, of which there are none exactly if the
verdict is a fit. -/
lemma examine_eq_of_ok {s : Session} {shape : Shape} {v : Value} {verdict : Bool}
    (h : (s.examine shape v).2 = .ok verdict) :
    (s.examine shape v).1 = s.collect (shape.walk v).found ∧
      verdict = (shape.walk v).found.isEmpty := by
  rw [examine_eq, Walk.replay] at h ⊢
  cases hending : (shape.walk v).ending with
  | error stop => simp [hending] at h
  | ok other =>
      simp only [hending, Except.ok.injEq] at h ⊢
      exact ⟨trivial, h ▸ shape.walk_inStep v other hending⟩

/-- A session of its own is valid in the end if nothing was found. -/
lemma isValid_finish_collect (settings : Settings) (found : Findings) :
    ((new settings).collect found).finish.isValid = found.isEmpty := by
  rw [finish, collect, Report.isEmpty_addAll, logOf, List.isEmpty_map]
  rfl

end Session

/-- What a validation brings out, it brings out of the findings of the walk. -/
lemma Shape.validate_eq_ok_iff (shape : Shape) (v : Value) (settings : Settings)
    (outcome : Outcome) :
    shape.validate v settings = .ok outcome ↔
      (∃ verdict, (shape.walk v).ending = .ok verdict) ∧
        outcome = ((Session.new settings).collect (shape.walk v).found).finish := by
  rw [validate, Session.examine_eq, Walk.replay]
  cases (shape.walk v).ending <;> simp [eq_comm]

/-- **Verdict and findings never come apart.**  A match that finds a fit leaves the session as it
was; one that finds none leaves the path as it was, and adds to the report at least one message,
all at the path or below it.  So the outcome of a validation is valid exactly if the match found
a fit, and exactly if its report is empty, by whatever it is asked. -/
theorem Session.examine_inStep (s : Session) (shape : Shape) (v : Value) :
    ((s.examine shape v).2 = .ok true → (s.examine shape v).1 = s) ∧
    ((s.examine shape v).2 = .ok false →
      ∃ log, log ≠ [] ∧ s.Appends (s.examine shape v).1 log) ∧
    ∀ settings outcome, shape.validate v settings = .ok outcome →
      ((Session.new settings).examine shape v).2 = .ok outcome.isValid ∧
      (outcome.isValid = true ↔ outcome.report.isEmpty = true) ∧
      (outcome.isValid = true ↔ outcome.report.toList = []) ∧
      (outcome.isValid = true ↔ outcome.report.size = 0) ∧
      (outcome.isValid = true ↔ outcome.message = "") := by
  refine ⟨fun h => ?_, fun h => ?_, fun settings outcome h => ?_⟩
  · obtain ⟨hafter, hverdict⟩ := examine_eq_of_ok h
    rw [hafter, List.isEmpty_iff.mp hverdict.symm, collect_nil]
  · obtain ⟨hafter, hverdict⟩ := examine_eq_of_ok h
    refine ⟨s.logOf (shape.walk v).found, ?_, hafter ▸ s.appends_collect _⟩
    intro hlog
    rw [List.map_eq_nil_iff.mp hlog] at hverdict
    exact Bool.noConfusion hverdict
  · obtain ⟨⟨verdict, hending⟩, rfl⟩ := (shape.validate_eq_ok_iff v settings outcome).mp h
    have hreport : ((Session.new settings).collect (shape.walk v).found).report =
        (Report.new settings).addAll ((Session.new settings).logOf (shape.walk v).found) := rfl
    refine ⟨?_, Iff.rfl, ?_, ?_, ?_⟩
    · rw [examine_eq, Walk.replay, hending, isValid_finish_collect,
        shape.walk_inStep v verdict hending]
    · rw [finish, hreport, Report.toList_addAll_new_eq_nil_iff]
    · exact (Report.size_eq_zero_iff _).symm
    · obtain ⟨hpretty, hcompact⟩ :=
        ((Session.new settings).collect (shape.walk v).found).report.render_ne_empty
      rw [finish]
      split_ifs with hempty hsettings <;> simp [hempty, hpretty, hcompact]

/-- Three matches: a fit and a misfit one step into a session that has a message already, and a
misfit in a session of its own. -/
theorem Session.examine_inStep_of_runs :
    let begun := ((new .usual).push (.key "a")).record .forbiddenKey
    let shape := Shape.sequence (.exact .integer)
    let misfit := ((new .usual).record .forbiddenKey).finish
    ((begun.examine shape (.array [.integer 1])).2 = .ok true ∧
      (begun.examine shape (.array [.integer 1])).1 = begun) ∧
    ((begun.examine shape (.array [.text "1"])).2 = .ok false ∧
      ∃ log, log ≠ [] ∧ begun.Appends (begun.examine shape (.array [.text "1"])).1 log) ∧
    Shape.validate .nothing .null .usual = .ok misfit ∧
      (misfit.isValid = true ↔ misfit.report.toList = []) := by
  intro begun shape misfit
  refine ⟨⟨rfl, ?_⟩, ⟨rfl, ?_⟩, rfl, ?_⟩
  · exact (examine_inStep begun shape (.array [.integer 1])).1 rfl
  · exact (examine_inStep begun shape (.array [.text "1"])).2.1 rfl
  · exact ((examine_inStep begun .nothing .null).2.2 .usual misfit rfl).2.2.1

end DataShape
