import DataShape.Proofs.Matching.Verdict

/-!
# A match anywhere is the match at the root

A match can be begun in a session that is under way: somewhere inside a larger value, with findings
of earlier matches in the report.  It does there what it does in a session of its own.  The verdict
is the same, the places of its messages move below the current path, and so does the place of a
violation; the messages that were there before stay where they are.

Places of a report are known by the names of their steps only.  So the messages of a match come to
stand at every path that has the *names* of the current path in front, even if its steps are others.

* `Session.Underway` — the sessions that can be made with some settings.
* `Session.examine_relocated` — **the match in a session under way, in terms of the match at the
  root.**
-/

namespace DataShape

namespace Session

/-- The sessions that come from a new one by going further in, going back and recording. -/
inductive Underway (settings : Settings) : Session → Prop
  | new : Underway settings (.new settings)
  | push {s : Session} (step : Segment) : Underway settings s → Underway settings (s.push step)
  | pop {s : Session} : Underway settings s → Underway settings s.pop
  | record {s : Session} (m : Mismatch) : Underway settings s → Underway settings (s.record m)

/-- The report of a session under way marks positions as the settings say. -/
lemma Underway.indexMark_eq {settings : Settings} {s : Session} (h : Underway settings s) :
    s.report.indexMark = settings.indexMark := by
  induction h with
  | new => rfl
  | push step _ ih => exact ih
  | pop _ ih => exact ih
  | record m _ ih => exact ih

/-- What is found below the current path gets to the places whose names begin with those of the
path, and nowhere else. -/
lemma messagesAt_collect_of_render_eq {s : Session} {settings : Settings}
    (hmark : s.report.indexMark = settings.indexMark) (found : Findings) {place inner : Path}
    (hplace : place.render settings.indexMark =
      s.path.render settings.indexMark ++ inner.render settings.indexMark) :
    (s.collect found).report.messagesAt place =
      s.report.messagesAt place ++
        ((new settings).collect found).report.messagesAt inner := by
  have hnew : (new settings).report.messagesAt inner = [] := rfl
  have hnewMark : (new settings).report.indexMark = settings.indexMark := rfl
  have hroot : (new settings).path = [] := rfl
  rw [collect, collect, Report.messagesAt_addAll, Report.messagesAt_addAll, hnew, hnewMark, hmark,
    List.nil_append, logOf, logOf, List.filter_map, List.filter_map, List.map_map, List.map_map,
    hroot]
  simp [Function.comp_def, Path.render_append, hplace]

lemma messagesAt_collect_of_not_prefix {s : Session} (found : Findings) {place : Path}
    (hplace : ¬ s.path.render s.report.indexMark <+: place.render s.report.indexMark) :
    (s.collect found).report.messagesAt place = s.report.messagesAt place := by
  have hnone : ∀ entry ∈ s.logOf found,
      ¬ entry.1.render s.report.indexMark = place.render s.report.indexMark := by
    intro entry hentry hsame
    obtain ⟨finding, -, rfl⟩ := List.mem_map.mp hentry
    rw [Path.render_append] at hsame
    exact hplace ⟨_, hsame⟩
  rw [collect, Report.messagesAt_addAll, List.filter_eq_nil_iff.mpr (by simpa using hnone)]
  simp

/-- **A match in a session under way is the match at the root, moved to the current path.**  With
an outcome there, the verdict is that of the outcome, the path is as it was, and each place gets the
messages that the outcome has at the place below the path; with a violation there, the violation is
the same, seen from further out. -/
theorem examine_relocated {settings : Settings} {s : Session} (h : Underway settings s)
    (shape : Shape) (v : Value) :
    (∀ outcome, shape.validate v settings = .ok outcome →
      (s.examine shape v).2 = .ok outcome.isValid ∧
      (s.examine shape v).1.path = s.path ∧
      ∀ place : Path,
        (∀ inner : Path, place.render settings.indexMark =
            s.path.render settings.indexMark ++ inner.render settings.indexMark →
          (s.examine shape v).1.report.messagesAt place =
            s.report.messagesAt place ++ outcome.report.messagesAt inner) ∧
        (¬ s.path.render settings.indexMark <+: place.render settings.indexMark →
          (s.examine shape v).1.report.messagesAt place = s.report.messagesAt place)) ∧
    ∀ violation, shape.validate v settings = .error violation →
      (s.examine shape v).2 = .error ⟨violation.cause, s.path ++ violation.path⟩ := by
  rw [examine_eq, Walk.replay]
  refine ⟨fun outcome houtcome => ?_, fun violation hviolation => ?_⟩
  · obtain ⟨⟨verdict, hending⟩, rfl⟩ := (shape.validate_eq_ok_iff v settings outcome).mp houtcome
    have hverdict := shape.walk_inStep v verdict hending
    simp only [hending]
    refine ⟨?_, rfl, fun place => ⟨fun inner hplace => ?_, fun hplace => ?_⟩⟩
    · rw [isValid_finish_collect, hverdict]
    · exact messagesAt_collect_of_render_eq h.indexMark_eq _ hplace
    · rw [← h.indexMark_eq] at hplace
      exact messagesAt_collect_of_not_prefix _ hplace
  · rw [Shape.validate, examine_eq, Walk.replay] at hviolation
    cases hending : (shape.walk v).ending with
    | ok verdict => simp [hending] at hviolation
    | error stop =>
        simp only [hending, Except.error.injEq] at hviolation
        rw [← hviolation]
        rfl

/-- A misfit below a key that is named like a position, where there is a message already, and a
violation at the same place. -/
theorem examine_relocated_of_runs :
    let s := ((new .usual).push (.key "idx_0")).record .forbiddenKey
    let outcome := ((new .usual).record .forbiddenKey).finish
    (Shape.nothing.validate .null .usual = .ok outcome ∧
      (s.examine .nothing .null).2 = .ok outcome.isValid ∧
      (s.examine .nothing .null).1.path = s.path ∧
      (s.examine .nothing .null).1.report.messagesAt [.index 0] =
        s.report.messagesAt [.index 0] ++ outcome.report.messagesAt [] ∧
      (s.examine .nothing .null).1.report.messagesAt [.index 1] =
        s.report.messagesAt [.index 1]) ∧
    (s.examine (.literal (.array [])) .null).2 = .error ⟨.emptyTemplate, [.key "idx_0"]⟩ := by
  intro s outcome
  have h : Underway .usual s := .record _ (.push _ .new)
  have hrun := (examine_relocated h .nothing .null).1 outcome rfl
  refine ⟨⟨rfl, hrun.1, hrun.2.1, (hrun.2.2 [.index 0]).1 [] ?_, (hrun.2.2 [.index 1]).2 ?_⟩, ?_⟩
  · decide
  · decide
  · exact (examine_relocated h (.literal (.array [])) .null).2 ⟨.emptyTemplate, []⟩ rfl

end Session

end DataShape
