import DataShape.Proofs.Matching.Showing
import DataShape.Proofs.Report.Simple

/-!
# One message at a place

A match finds at most one mismatch of a place itself, and only where it does not go into the place.
In a record, what is found in a field is below the name of the field, and no name is two of these:
undeclared, absent, and declared and there.  So if no name is repeated, the places of the findings
are separate: at each there is one message, and neither above nor below it is there another.

* `Findings.kept_separate` — the places of findings are separate.
* `Shape.simple_validate` — **the report of a validation is simple**, and hides no message.
-/

namespace DataShape

open Report.Node (Separate)

/-- Parts with different names have separate places together if each has. -/
lemma Findings.kept_separate (mark : String) : Kept mark fun found =>
    (found.log mark).Pairwise fun entry other => Separate entry.1 other.1 where
  nil := .nil
  single m := List.pairwise_singleton _ _
  ofParts {parts} hnames hparts := by
    rw [log_ofParts, List.pairwise_flatMap]
    constructor
    · intro part hpart
      refine List.pairwise_map.mpr ((hparts part hpart).imp fun hseparate => ?_)
      exact Report.Node.separate_cons_iff.mpr hseparate
    · refine (List.pairwise_map.mp hnames).imp fun hne entry hentry other hother => ?_
      obtain ⟨first, -, rfl⟩ := List.mem_map.mp hentry
      obtain ⟨second, -, rfl⟩ := List.mem_map.mp hother
      exact Report.Node.separate_of_ne hne _ _

namespace Shape

/-- **The report of a validation is simple** if no name is repeated in the shape or in the value.
Each of its nodes has one message and nothing below it, or branches and no message; so a message is
the only one at its place, there is no place below, and nothing takes its name in the rendered
report. -/
theorem simple_validate {shape : Shape} (hshape : shape.Unambiguous) {v : Value}
    (hv : v.Unambiguous) {settings : Settings} {outcome : Outcome}
    (h : shape.validate v settings = .ok outcome) :
    outcome.report.Simple ∧
    ∀ place, ∀ message ∈ outcome.report.messagesAt place,
      outcome.report.messagesAt place = [message] ∧
      (∀ below, below ≠ [] → outcome.report.get? (place ++ below) = none) ∧
      outcome.report.Shows place message := by
  have hseparate := (Findings.kept_separate settings.indexMark).findings hshape hv
  have hreport := (logs_walk shape v).report_eq h
  rw [found_walk shape (not_stopped_of_validate h)] at hreport
  have hlog : ((Session.new settings).logOf (shape.findings v)).map
      (fun entry => (entry.1.render settings.indexMark, entry.2)) =
        (shape.findings v).log settings.indexMark := List.map_map
  have hsimple : outcome.report.Simple := hreport ▸ Report.simple_addAll_new (hlog ▸ hseparate)
  refine ⟨hsimple, fun place message hmessage => ⟨?_, fun below hbelow => ?_, ?_⟩⟩
  · rw [Report.messagesAt, hsimple.get?_eq hmessage]
    rfl
  · exact hsimple.get?_append_eq_none hmessage hbelow
  · rw [Report.shows_iff (grown_validate h) hmessage]
    exact hsimple.get?_append_eq_none hmessage (List.cons_ne_nil _ _)

/-- An undeclared key, an absent field and a misfit in an array, all below a field that has the name
of the messages. -/
theorem simple_validate_of_record :
    let shape := Shape.record [("errors", .record [("errors", .sequence (.exact .text)),
      ("id", .exact .integer)])]
    let v := Value.map [(.text "errors",
      .map [(.text "errors", .array [.null]), (.number 1, .null)])]
    let message := (Mismatch.wrongKind Value.null.inspect Kind.text.name).message
    let place : Path := [.key "errors", .key "errors", .index 0]
    ∃ outcome, shape.Unambiguous ∧ v.Unambiguous ∧ shape.validate v .usual = .ok outcome ∧
      outcome.report.toList.map (·.1) = ["errors.1", "errors.id", "errors.errors.idx_0"] ∧
      outcome.report.Simple ∧ outcome.report.messagesAt place = [message] ∧
      outcome.report.Shows place message := by
  intro shape v message place
  have hshape : shape.Unambiguous := by
    refine .record (by decide) fun field hfield => ?_
    cases List.mem_singleton.mp hfield
    refine .record (by decide) fun inner hinner => ?_
    rcases List.mem_pair.mp hinner with rfl | rfl
    · exact .sequence .exact
    · exact .exact
  have hv : v.Unambiguous := by
    refine .map (by decide) fun entry hentry => ?_
    cases List.mem_singleton.mp hentry
    refine .map (by decide) fun inner hinner => ?_
    rcases List.mem_pair.mp hinner with rfl | rfl
    · exact .array fun item hitem => List.mem_singleton.mp hitem ▸ .scalar rfl
    · exact .scalar rfl
  have hvalidate : shape.validate v .usual = .ok ((Session.new .usual).examine shape v).1.finish :=
    rfl
  have hmessage : message ∈
      ((Session.new .usual).examine shape v).1.finish.report.messagesAt place :=
    List.mem_singleton.mpr rfl
  obtain ⟨hsimple, hplaces⟩ := simple_validate hshape hv hvalidate
  obtain ⟨hone, -, hshows⟩ := hplaces place message hmessage
  exact ⟨_, hshape, hv, hvalidate, rfl, hsimple, hone, hshows⟩

end Shape

end DataShape
