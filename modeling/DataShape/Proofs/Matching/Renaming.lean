import DataShape.Proofs.Matching.Conformance
import DataShape.Proofs.Report.Naming

/-!
# Settings only rename

The settings of a match choose the names of places and the form of the text.  They could do more: a
mark that gives a position the name of a key beside it would put two places into one node, and
change what the report counts and in which order it lists.  But a match of one shape never goes to a
position and to a key of the same node, so all its reports are one draft under different names.

* `Shape.draft` — the report of a match, before places have names.
* `Shape.top_validate` — the settings give names to the draft.
* `Shape.Records` — the places at which a match records something.
* `Shape.validate_renames` — **what two matches with different settings have in common.**
-/

namespace DataShape

open Report (Draft)

/-! ## The draft of a match -/

namespace Shape

/-- The report of a match, before places have names. -/
def draft (shape : Shape) (v : Value) : Option Draft :=
  Draft.addAll none ((shape.walk v).found.map fun entry => (entry.1, entry.2.message))

variable {shape : Shape} {v : Value}

/-- **The settings give names to the draft**, and to nothing else of the report. -/
theorem top_validate {settings : Settings} {outcome : Outcome}
    (h : shape.validate v settings = .ok outcome) :
    outcome.report.top = (shape.draft v).map (Draft.named settings.indexMark) := by
  have hlog : (Session.new settings).logOf (shape.walk v).found =
      (shape.walk v).found.map fun entry => (entry.1, entry.2.message) := rfl
  have hplace : ∀ entry ∈ (Session.new settings).logOf (shape.walk v).found,
      shape.Reports v entry.1 := by
    intro entry hentry
    obtain ⟨finding, hfinding, rfl⟩ := List.mem_map.mp hentry
    exact reports_of_mem_found hfinding
  have hnew : (Report.new settings).top = Option.map (Draft.named settings.indexMark) none := rfl
  rw [(logs_walk shape v).report_eq h, draft, ← hlog]
  refine Report.top_addAll_eq_named hnew (fun _ _ => Draft.apart_empty _) ?_
  intro entry hentry other hother
  exact (hplace entry hentry).toldApart settings.indexMark (hplace other hother)

/-! ## What the settings do not change -/

/-- The match of the shape and the value records a mismatch at the place. -/
def Records (shape : Shape) (v : Value) (place : Path) : Prop :=
  ∃ log, shape.Logs v log ∧ place ∈ log.map (·.1)

lemma records_iff {place : Path} :
    shape.Records v place ↔ place ∈ (shape.walk v).found.map (·.1) := by
  refine ⟨fun ⟨log, hlog, hplace⟩ => ?_, fun hplace => ⟨_, logs_walk shape v, hplace⟩⟩
  exact (hlog.places_perm (logs_walk shape v)).mem_iff.mp hplace

/-- A place of the match has in every report the messages that the match found there. -/
lemma Records.messagesAt_eq {place : Path} (h : shape.Records v place) {settings : Settings}
    {outcome : Outcome} (houtcome : shape.validate v settings = .ok outcome) :
    outcome.report.messagesAt place = (shape.walk v).found.messagesAt place := by
  obtain ⟨entry, hentry, rfl⟩ := List.mem_map.mp (records_iff.mp h)
  exact (logs_walk shape v).messagesAt_report houtcome hentry

end Shape

/-- Two outcomes of the match of a shape and a value that differ in the names of places and in their
text only. -/
structure Outcome.Renames (shape : Shape) (v : Value) (outcome other : Outcome) : Prop where
  isValid_eq : outcome.isValid = other.isValid
  messages_eq : outcome.report.toList.map (·.2) = other.report.toList.map (·.2)
  size_eq : outcome.report.size = other.report.size
  messagesAt_eq : ∀ place, shape.Records v place →
    outcome.report.messagesAt place = other.report.messagesAt place

namespace Shape

/-- **Settings only rename.**  With any two settings, a match ends with the same violation, or it
has the same verdict, the same messages in the same order, a report of the same size, and the same
messages at every place where something was recorded. -/
theorem validate_renames (shape : Shape) (v : Value) (settings second : Settings) :
    ((∃ violation, shape.validate v settings = .error violation ∧
        shape.validate v second = .error violation) ∨
      ∃ outcome other, shape.validate v settings = .ok outcome ∧
        shape.validate v second = .ok other ∧ outcome.Renames shape v other) ∧
    shape.accepts v settings = shape.accepts v second := by
  refine ⟨?_, by rw [accepts_eq, accepts_eq]⟩
  cases hending : (shape.walk v).ending with
  | error stop =>
      have hstopped : ∀ settings, shape.validate v settings = .error stop.violation := by
        intro settings
        rw [validate, Session.examine_eq, Walk.replay, hending]
        rfl
      exact .inl ⟨_, hstopped settings, hstopped second⟩
  | ok verdict =>
      have hok : ∀ settings, shape.validate v settings =
          .ok ((Session.new settings).collect (shape.walk v).found).finish := fun settings =>
        (shape.validate_eq_ok_iff v settings _).mpr ⟨⟨verdict, hending⟩, rfl⟩
      obtain ⟨hmessages, hsize⟩ :=
        Report.messages_eq_of_named (top_validate (hok settings)) (top_validate (hok second))
      refine .inr ⟨_, _, hok settings, hok second, ?_, hmessages, hsize, fun place hplace => ?_⟩
      · rw [Session.isValid_finish_collect, Session.isValid_finish_collect]
      · rw [hplace.messagesAt_eq (hok settings), hplace.messagesAt_eq (hok second)]

/-- A misfit in an array beside a key that looks like a position, with the usual mark of positions
and with none. -/
theorem validate_renames_of_record :
    let shape := Shape.record [("1", .sequence (.exact .text))]
    let v := Value.map [(.number 1, .array [.null]), (.text "0", .null), (.text "idx_0", .null)]
    let second : Settings := { indexMark := "", pretty := false }
    ∃ outcome other, shape.validate v .usual = .ok outcome ∧ shape.validate v second = .ok other ∧
      outcome.report.toList.map (·.1) = ["0", "idx_0", "1.idx_0"] ∧
      other.report.toList.map (·.1) = ["0", "idx_0", "1.0"] ∧ outcome.Renames shape v other := by
  intro shape v second
  obtain ⟨violation, hviolation, -⟩ | ⟨outcome, other, houtcome, hother, hrenames⟩ :=
    (validate_renames shape v .usual second).1
  · exact absurd hviolation (by rintro ⟨⟩)
  · refine ⟨outcome, other, houtcome, hother, ?_, ?_, hrenames⟩
    · cases houtcome
      rfl
    · cases hother
      rfl

end Shape

end DataShape
