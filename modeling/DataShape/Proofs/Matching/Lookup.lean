import DataShape.Proofs.Matching.Places
import DataShape.Proofs.Path.Dotted

/-!
# Looking up what a match reported

The list of all messages gives their places as dotted text, from which a path can be read to look
the place up again.  Where this path has the names that the place has, it leads to the messages of
the place, and to no others, since a match never puts two places into one node.  A crooked key leads
elsewhere: beside a position of another name, there is nothing to be found.

* `Report.messagesAt_congr` — paths of the same names have the same messages.
* `Shape.messagesAt_ofDotted` — **the messages of all legible places are found by their text.**
* `Shape.messagesAt_ofDotted_eq_nil` — a message at a crooked key is not.
-/

namespace DataShape

lemma Report.messagesAt_congr (r : Report) {p q : Path}
    (h : p.render r.indexMark = q.render r.indexMark) : r.messagesAt p = r.messagesAt q := by
  rw [messagesAt_eq, messagesAt_eq, h]

namespace Shape

variable {shape : Shape} {v : Value} {outcome : Outcome}

/-- **The messages of all legible places are found by their text.**  There is a list of what a match
records.  For every such list, under the usual settings, all messages are listed with the dotted
text of the places where they were recorded; the path that is read from this text has the names of
the place exactly if the place is legible; and then the message is found there, with the others that
were recorded at the place. -/
theorem messagesAt_ofDotted (h : shape.validate v .usual = .ok outcome) :
    (∃ log, shape.Logs v log) ∧ ∀ log, shape.Logs v log →
      outcome.report.toList.Perm (log.map fun entry => (entry.1.text, entry.2.message)) ∧
      ∀ entry ∈ log,
        ((Path.ofDotted entry.1.text).render Segment.dottedMark =
          entry.1.render Segment.dottedMark ↔ entry.1.Legible) ∧
        (entry.1.Legible →
          entry.2.message ∈ outcome.report.messagesAt (.ofDotted entry.1.text) ∧
          outcome.report.messagesAt (.ofDotted entry.1.text) = log.messagesAt entry.1) := by
  refine ⟨⟨_, shape.logs_walk v⟩, fun log hlog => ⟨?_, fun entry hentry => ?_⟩⟩
  · have hperm := (Report.new .usual).toList_addAll_perm ((Session.new .usual).logOf log)
    rw [← hlog.report_eq h, Session.logOf, List.map_map] at hperm
    exact hperm
  · refine ⟨Path.render_ofDotted_text_iff entry.1, fun hlegible => ?_⟩
    have hmark : outcome.report.indexMark = Segment.dottedMark := by
      rw [hlog.report_eq h, Report.indexMark_addAll]
      rfl
    have hnames := (Path.render_ofDotted_text_iff entry.1).mpr hlegible
    have hfound : outcome.report.messagesAt (.ofDotted entry.1.text) = log.messagesAt entry.1 := by
      rw [outcome.report.messagesAt_congr (hmark.symm ▸ hnames)]
      exact hlog.messagesAt_report h hentry
    exact ⟨hfound ▸ Findings.mem_messagesAt hentry, hfound⟩

/-- A key that looks like a position and a marked position, below a key that looks like another. -/
theorem messagesAt_ofDotted_of_run :
    let shape := Shape.record [("idx_0", .exact .integer), ("idx_7", .sequence (.exact .text))]
    let v := Value.map [(.text "idx_0", .null), (.text "idx_7", .array [.null])]
    let log : Findings := [([.key "idx_0"], .wrongKind Value.null.inspect Kind.integer.name),
      ([.key "idx_7", .index 0], .wrongKind Value.null.inspect Kind.text.name)]
    ∃ outcome, shape.validate v .usual = .ok outcome ∧ shape.Logs v log ∧
      ∀ entry ∈ log, entry.1.Legible ∧
        entry.2.message ∈ outcome.report.messagesAt (.ofDotted entry.1.text) := by
  intro shape v log
  have hlog : shape.Logs v log := shape.logs_walk v
  have hlegible : ∀ entry ∈ log, entry.1.Legible := by
    simp only [← Path.render_ofDotted_text_iff]
    decide
  have houtcome : shape.validate v .usual = .ok ((Session.new .usual).collect log).finish := rfl
  refine ⟨_, houtcome, hlog, fun entry hentry => ⟨hlegible entry hentry, ?_⟩⟩
  exact ((((messagesAt_ofDotted houtcome).2 log hlog).2 entry hentry).2 (hlegible entry hentry)).1

/-- **A message at a crooked key is not found by its text.**  If the key is not declared, whatever
its value is, this is listed under the key; but the path that is read from the key leads to a
position of another name, where nothing is. -/
theorem messagesAt_ofDotted_eq_nil {name : String} (h : Path.Crooked name) (part : Value) :
    ∃ outcome, (record []).validate (.map [(.text name, part)]) .usual = .ok outcome ∧
      outcome.report.toList = [(name, (Mismatch.undeclaredKey name).message)] ∧
      outcome.report.messagesAt (.ofDotted name) = [] := by
  let found : Findings := [([.key name], .undeclaredKey name)]
  have hwalk : (record []).walk (.map [(.text name, part)]) = ⟨found, .ok false⟩ := rfl
  refine ⟨((Session.new .usual).collect found).finish, ?_, rfl, ?_⟩
  · rw [validate_eq_ok_iff, hwalk]
    exact ⟨⟨false, rfl⟩, rfl⟩
  · have hnames : ¬ Path.render Segment.dottedMark [.key name] =
        (Path.ofDotted name).render Segment.dottedMark := by
      intro hsame
      have hlegible := (Path.render_ofDotted_text_iff [.key name]).mp hsame.symm
      exact hlegible.straight name List.mem_cons_self h
    have hreport : ((Session.new .usual).collect found).finish.report =
        (Report.new .usual).add [.key name] (Mismatch.undeclaredKey name).message := rfl
    rw [hreport, Report.messagesAt_add]
    exact if_neg hnames

/-- A key that is taken for the first position, whose name is `idx_1`. -/
theorem messagesAt_ofDotted_idx_01 :
    let place : Path := [.key "idx_01"]
    let m := (Mismatch.undeclaredKey "idx_01").message
    ∃ outcome, (record []).validate (.map [(.text "idx_01", .integer 1)]) .usual = .ok outcome ∧
      (place.text, m) ∈ outcome.report.toList ∧
      (∀ key, .key key ∈ place → '.' ∉ key.toList) ∧ place ≠ [.key ""] ∧
      place ≠ [.key Path.rootText] ∧
      m ∉ outcome.report.messagesAt (.ofDotted place.text) := by
  intro place m
  have hcrooked : Path.Crooked "idx_01" := ⟨false, 1, 1, by decide, by decide, rfl⟩
  obtain ⟨outcome, houtcome, hlist, hfound⟩ := messagesAt_ofDotted_eq_nil hcrooked (.integer 1)
  refine ⟨outcome, houtcome, ?_, by simp [place], by decide, by decide, ?_⟩
  · rw [hlist]
    exact List.mem_singleton.mpr rfl
  · rw [show place.text = "idx_01" from rfl, hfound]
    exact List.not_mem_nil

end Shape

end DataShape
