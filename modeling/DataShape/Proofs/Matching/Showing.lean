import DataShape.Proofs.Matching.Places
import DataShape.Proofs.Report.Rendering

/-!
# What a rendered validation shows

A message is missing in the rendered report of a validation only if its node has a branch with the
name of the messages.  A match puts a message at a node and others below it only if it gets there
twice, with a value that it goes into and with one that it does not.  This needs two keys of one
map that stand for the same field.  In values without such keys no place of a match lies below
another, and everything is shown, whatever the fields are called.

* `Shape.Reports.eq_of_prefix` — no place of a match lies below another.
* `Shape.shows_validate` — **what a rendered validation shows.**
* `Shape.not_shows_validate` — a message that is not shown.
-/

namespace DataShape

lemma Path.ToldApart.prefix_of_names {mark : String} {p q : Path} (h : ToldApart mark p q)
    (hnames : p.render mark <+: q.render mark) : p <+: q := by
  have hstart : p.render mark = Path.render mark (q.take p.length) := by
    have htake := List.prefix_iff_eq_take.mp hnames
    rwa [render, List.length_map, render, ← List.map_take] at htake
  rw [h p (q.take p.length) List.prefix_rfl (List.take_prefix _ _) hstart]
  exact List.take_prefix _ _

/-- What the rendered report shows is in the text of the outcome. -/
lemma Session.textChars_infix_finish {s : Session} {place : Path} {message : String}
    (h : s.report.Shows place message) : Json.textChars message <:+: s.finish.message.toList := by
  obtain ⟨hcompact, hpretty⟩ := h.textChars_infix
  rw [finish, h.isEmpty_eq_false, if_neg Bool.false_ne_true]
  split_ifs
  · exact hpretty
  · exact hcompact

namespace Shape

variable {shape : Shape} {v : Value} {p q : Path}

/-! ## Places below places -/

lemma Reports.eq_nil_of_stays (h : Reports shape v p) (hstays : shape.goesInto v = false) :
    p = [] := by
  induction h with
  | here _ => rfl
  | item _ _ _ => cases hstays
  | key _ => cases hstays
  | field _ _ _ _ => cases hstays
  | @arrayTemplate _ _ v _ _ ih => exact ih (by cases v <;> first | rfl | exact hstays)
  | @mapTemplate _ v _ _ ih => exact ih (by cases v <;> first | rfl | exact hstays)

/-- **No place of a match lies below another** if no key of the value is repeated. -/
theorem Reports.eq_of_prefix (hv : v.Unambiguous) (hp : Reports shape v p)
    (hq : Reports shape v q) (h : p <+: q) : p = q := by
  induction hp generalizing q with
  | here hstays => exact (hq.eq_nil_of_stays hstays).symm
  | item hpart _ ih =>
      cases hq with
      | here hstays => cases hstays
      | item hother hrest =>
          obtain ⟨hstep, hpath⟩ := List.cons_prefix_cons.mp h
          cases hstep
          cases hpart.symm.trans hother
          rw [ih (hv.of_mem_array (List.mem_of_getElem? hpart)) hrest hpath]
  | key hundeclared =>
      cases hq with
      | here hstays => cases hstays
      | key _ => rw [(List.cons_prefix_cons.mp h).1]
      | field hmem hfield _ =>
          cases (List.cons_prefix_cons.mp h).1
          cases hfield.symm.trans (hundeclared (List.mem_map_of_mem hmem))
  | field hmem hfield _ ih =>
      cases hq with
      | here hstays => cases hstays
      | key hundeclared =>
          cases (List.cons_prefix_cons.mp h).1
          cases hfield.symm.trans (hundeclared (List.mem_map_of_mem hmem))
      | field hother hsecond hrest =>
          obtain ⟨hstep, hpath⟩ := List.cons_prefix_cons.mp h
          cases hstep
          cases hfield.symm.trans hsecond
          -- No other part has the name, so both places are in the same one.
          cases List.inj_on_of_nodup_map hv.nodup_names hmem hother rfl
          rw [ih (hv.of_mem_map hmem) hrest hpath]
  | arrayTemplate _ ih =>
      cases hq with
      | here _ => exact List.prefix_nil.mp h
      | arrayTemplate hq => exact ih hv hq h
  | mapTemplate _ ih =>
      cases hq with
      | here _ => exact List.prefix_nil.mp h
      | mapTemplate hq => exact ih hv hq h

/-! ## The report of a validation -/

variable {settings : Settings} {outcome : Outcome}

lemma grown_validate (h : shape.validate v settings = .ok outcome) : outcome.report.Grown := by
  rw [(logs_walk shape v).report_eq h]
  exact (Report.grown_new settings).addAll _

/-- Whatever a node of the report holds was found at a place of the match with these names. -/
lemma exists_reports_of_messagesAt (h : shape.validate v settings = .ok outcome) {place : Path}
    (hplace : outcome.report.messagesAt place ≠ []) :
    ∃ p, shape.Reports v p ∧ p.render settings.indexMark = place.render settings.indexMark := by
  rw [(logs_walk shape v).report_eq h, Report.messagesAt_addAll] at hplace
  obtain ⟨message, hmessage⟩ := List.exists_mem_of_ne_nil _ hplace
  obtain ⟨_, hentry, -⟩ := List.mem_map.mp hmessage
  obtain ⟨hlogged, hsame⟩ := List.mem_filter.mp hentry
  obtain ⟨entry, hfound, rfl⟩ := List.mem_map.mp hlogged
  exact ⟨entry.1, reports_of_mem_found hfound, of_decide_eq_true hsame⟩

/-- If no key of the value is repeated, a node with messages has no branches. -/
lemma get?_push_eq_none (hv : v.Unambiguous) (h : shape.validate v settings = .ok outcome)
    {place : Path} (hplace : outcome.report.messagesAt place ≠ []) (step : Segment) :
    outcome.report.get? (place.push step) = none := by
  by_contra hbranch
  obtain ⟨node, hnode⟩ := Option.ne_none_iff_exists'.mp hbranch
  obtain ⟨below, hbelow⟩ := (grown_validate h).exists_messagesAt hnode
  obtain ⟨p, hp, hpnames⟩ := exists_reports_of_messagesAt h hplace
  obtain ⟨q, hq, hqnames⟩ := exists_reports_of_messagesAt h hbelow
  have hnames : q.render settings.indexMark =
      p.render settings.indexMark ++ Path.render settings.indexMark (step :: below) := by
    rw [hqnames, hpnames]
    simp [Path.render, Path.push]
  have hprefix : p <+: q :=
    (hp.toldApart settings.indexMark hq).prefix_of_names ⟨_, hnames.symm⟩
  rw [← hp.eq_of_prefix hv hq hprefix] at hnames
  exact List.cons_ne_nil _ _ (List.self_eq_append_right.mp hnames)

lemma exists_place_of_mem_toList (h : shape.validate v settings = .ok outcome)
    {entry : String × String} (hentry : entry ∈ outcome.report.toList) :
    ∃ place, entry.1 = Path.placeText settings.indexMark place ∧
      entry.2 ∈ outcome.report.messagesAt place := by
  have hmark : (Report.new settings).indexMark = settings.indexMark := rfl
  have hnew : (Report.new settings).toList = [] := rfl
  rw [(logs_walk shape v).report_eq h] at hentry ⊢
  rw [(Report.toList_addAll_perm _ _).mem_iff, hnew, List.nil_append] at hentry
  obtain ⟨logged, hlogged, rfl⟩ := List.mem_map.mp hentry
  refine ⟨logged.1, rfl, ?_⟩
  rw [Report.messagesAt_addAll, List.mem_append]
  exact .inr (List.mem_map_of_mem (List.mem_filter.mpr ⟨hlogged, decide_eq_true rfl⟩))

/-- **What a rendered validation shows.**  Every message of the report is one of a node.  It is
shown at its node, and so in the text of the outcome, exactly if the node has no branch with the
name of the messages; and if no key of the value is repeated, all messages are shown. -/
theorem shows_validate (h : shape.validate v settings = .ok outcome) :
    (∀ entry ∈ outcome.report.toList, ∃ place,
      entry.1 = Path.placeText settings.indexMark place ∧
        entry.2 ∈ outcome.report.messagesAt place) ∧
    ∀ place, ∀ message ∈ outcome.report.messagesAt place,
      (outcome.report.Shows place message ↔
        outcome.report.get? (place.push (.key Report.Node.messagesKey)) = none) ∧
      (v.Unambiguous → outcome.report.Shows place message) ∧
      (outcome.report.Shows place message →
        Json.textChars message <:+: outcome.message.toList) := by
  refine ⟨fun entry hentry => exists_place_of_mem_toList h hentry, fun place message hmessage => ?_⟩
  have hshows := Report.shows_iff (grown_validate h) hmessage
  refine ⟨hshows, fun hv => hshows.mpr ?_, fun hshown => ?_⟩
  · exact get?_push_eq_none hv h (List.ne_nil_of_mem hmessage) _
  · obtain ⟨-, rfl⟩ := (shape.validate_eq_ok_iff v settings outcome).mp h
    exact Session.textChars_infix_finish hshown

/-- A misfit below a field that has the name of the messages. -/
theorem shows_validate_of_record :
    let shape := Shape.record [("errors", .record [("errors", .exact .integer)])]
    let v := Value.map [(.text "errors", .map [(.text "errors", .null)])]
    let place : Path := [.key "errors", .key "errors"]
    let message := (Mismatch.wrongKind Value.null.inspect Kind.integer.name).message
    ∃ outcome, shape.validate v .usual = .ok outcome ∧ v.Unambiguous ∧
      ("errors.errors", message) ∈ outcome.report.toList ∧
      (∃ path, "errors.errors" = Path.placeText Settings.usual.indexMark path ∧
        message ∈ outcome.report.messagesAt path) ∧
      message ∈ outcome.report.messagesAt place ∧ outcome.report.Shows place message ∧
      Json.textChars message <:+: outcome.message.toList := by
  intro shape v place message
  have hv : v.Unambiguous := by
    refine .map (by decide) fun entry hentry => ?_
    cases List.mem_singleton.mp hentry
    refine .map (by decide) fun inner hinner => ?_
    cases List.mem_singleton.mp hinner
    exact .scalar rfl
  have hvalidate : shape.validate v .usual = .ok ((Session.new .usual).examine shape v).1.finish :=
    rfl
  have hmessage : message ∈
      ((Session.new .usual).examine shape v).1.finish.report.messagesAt place :=
    List.mem_singleton.mpr rfl
  have hlisted : ("errors.errors", message) ∈
      ((Session.new .usual).examine shape v).1.finish.report.toList := List.mem_cons_self
  obtain ⟨hlist, hplaces⟩ := shows_validate hvalidate
  obtain ⟨-, hshown, htext⟩ := hplaces place message hmessage
  exact ⟨_, hvalidate, hv, hlisted, hlist _ hlisted, hmessage, hshown hv, htext (hshown hv)⟩

/-- Two values under one name: the one that is no map is reported at the node where the other one
has a branch with the name of the messages. -/
theorem not_shows_validate :
    let shape := Shape.record [("1", .record [("errors", .exact .integer)])]
    let v := Value.map [(.number 1, .integer 5), (.text "1", .map [(.text "errors", .null)])]
    let message := (Mismatch.wrongKind (Value.integer 5).inspect Kind.map.name).message
    ∃ outcome, shape.validate v .usual = .ok outcome ∧
      (Path.placeText Settings.usual.indexMark [.key "1"], message) ∈ outcome.report.toList ∧
      message ∈ outcome.report.messagesAt [.key "1"] ∧
      ¬ outcome.report.Shows [.key "1"] message := by
  intro shape v message
  have hvalidate : shape.validate v .usual = .ok ((Session.new .usual).examine shape v).1.finish :=
    rfl
  have hmessage : message ∈
      ((Session.new .usual).examine shape v).1.finish.report.messagesAt [.key "1"] :=
    List.mem_singleton.mpr rfl
  refine ⟨_, hvalidate, List.mem_cons_self, hmessage, fun hshows => ?_⟩
  cases (Report.shows_iff (grown_validate hvalidate) hmessage).mp hshows

end Shape

end DataShape
