import DataShape.Proofs.Matching.Listing
import DataShape.Proofs.Matching.Routes
import DataShape.Proofs.Report.Subtree

/-!
# The report of a part

A match goes from arrays to their items and from maps to their declared fields, and of such a part
it lists what a match of the part alone lists.  Other messages come before these and after them, but
none of them is below the part: other items and other fields have other names, and so have the
undeclared keys and the absent fields.  So the report below the part is the report of the part.
This takes a value that repeats no name; the shape may repeat some.

Alternatives are no such parts: they are tried in forks, of which no report is kept.

* `Findings.below_sequence`, `Findings.below_record` — what is listed below an item or a field.
* `Shape.Leads.get?_findings` — what is written below a place.
* `Shape.get?_validate` — **the report below a place is the report of the place.**
-/

namespace DataShape

open Report.Node (Log extend get?_extend_cons)

/-! ## Below an item and below a field -/

namespace Findings

variable {mark : String}

lemma below_sequence (item : Value → Findings) {parts : List Value} {position : Nat} {part : Value}
    (hpart : parts[position]? = some part) :
    Log.below ((Segment.index position).render mark) ((sequence item (.array parts)).log mark) =
      (item part).log mark := by
  have hmem : (Segment.index position, item part) ∈
      parts.zipIdx.map fun part => (Segment.index part.2, item part.1) :=
    List.mem_map.mpr ⟨(part, position), List.mem_zipIdx_iff_getElem?.mpr hpart, rfl⟩
  rw [sequence, log_ofParts]
  exact Log.below_flatMap_of_mem (nodup_names_items item parts) hmem

lemma below_record {declared : Matching.Declarations} {field : String → Option (Value → Findings)}
    {entries : List (Key × Value)} {key : Key} {part : Value} {list : Value → Findings}
    (hnames : (Entries.keys (Value.byName entries)).Nodup) (hentry : (key, part) ∈ entries)
    (hfield : field key.normalized = some list) :
    Log.below key.normalized ((record declared field (.map entries)).log mark) =
      (list part).log mark := by
  have hpresent : (key.normalized, part) ∈ Value.byName entries := List.mem_map_of_mem hentry
  have hmem : (Segment.key key.normalized, list part) ∈
      fieldValues field (Value.byName entries) :=
    List.mem_filterMap.mpr ⟨_, hpresent, by rw [hfield]; rfl⟩
  rw [record, log_ofParts, List.flatMap_append, List.flatMap_append, Log.below_append,
    Log.below_append,
    Log.below_flatMap_of_not_mem fun other hother => undeclared_name_ne hother hfield,
    Log.below_flatMap_of_not_mem fun other hother =>
      absent_name_ne hother (List.mem_map_of_mem hpresent),
    List.nil_append, List.nil_append]
  exact Log.below_flatMap_of_mem (nodup_names_fieldValues hnames) hmem

end Findings

/-! ## Below a place -/

namespace Shape

variable {shape place : Shape} {v part : Value} {route : Route}

lemma below_findings_sequence {item : Shape} {parts : List Value} {position : Nat}
    (hpart : parts[position]? = some part) (mark : String) :
    Log.below ((Segment.index position).render mark)
        ((findings (.sequence item) (.array parts)).log mark) =
      (item.findings part).log mark := Findings.below_sequence item.findings hpart

lemma below_findings_record {fields : List (String × Shape)} {entries : List (Key × Value)}
    {key : Key} {field : Shape} (hv : Value.Unambiguous (.map entries))
    (hentry : (key, part) ∈ entries) (hfield : Entries.lookup? key.normalized fields = some field)
    (mark : String) :
    Log.below key.normalized ((findings (.record fields) (.map entries)).log mark) =
      (field.findings part).log mark := by
  rw [findings_record]
  exact Findings.below_record hv.nodup_names hentry (by rw [hfield]; rfl)

/-- What is written below a place is what the place lists. -/
lemma Leads.get?_findings (h : shape.Leads v route place part)
    (hsteps : ∀ turn ∈ route, turn.step?.isSome = true) (hv : v.Unambiguous) (mark : String) :
    (extend none ((shape.findings v).log mark)).bind (Report.Node.get? (route.path.render mark)) =
      extend none ((place.findings part).log mark) := by
  -- Every step takes its name off the log: only what the part lists goes further down.
  induction h with
  | here => exact Option.bind_fun_some _
  | item hpart _ ih =>
      rw [List.forall_mem_cons] at hsteps
      have hitem := ih hsteps.2 (hv.of_mem_array (List.mem_of_getElem? hpart))
      rw [← below_findings_sequence hpart] at hitem
      exact (get?_extend_cons _ _ _).trans hitem
  | entry hentry hfield _ ih =>
      rw [List.forall_mem_cons] at hsteps
      have hmem := List.mem_of_getElem? hentry
      have hvalue := ih hsteps.2 (hv.of_mem_map (List.mem_map_of_mem hmem))
      rw [← below_findings_record hv hmem hfield] at hvalue
      exact (get?_extend_cons _ _ _).trans hvalue
  | alternative _ _ _ => exact absurd (hsteps _ List.mem_cons_self) Bool.noConfusion
  | optional _ ih => exact findings_optional_eq_union _ _ ▸ ih hsteps hv
  | arrayTemplate _ ih => exact ih hsteps hv
  | mapTemplate _ ih => exact findings_mapTemplate _ _ ▸ ih hsteps hv

/-! ## Reports -/

/-- The report of a validation, written to its topmost node. -/
lemma top_report_validate {settings : Settings} {outcome : Outcome}
    (h : shape.validate v settings = .ok outcome) :
    outcome.report.indexMark = settings.indexMark ∧
      outcome.report.top = extend none ((shape.findings v).log settings.indexMark) := by
  rw [validate_eq_of_not_stopped (not_stopped_of_validate h), Except.ok.injEq] at h
  have hreport : outcome.report =
      (Report.new settings).addAll ((Session.new settings).logOf (shape.findings v)) := h ▸ rfl
  rw [hreport, Report.indexMark_addAll, Report.top_addAll_eq_extend, Session.logOf, List.map_map]
  exact ⟨rfl, rfl⟩

lemma extend_findings_eq_none_iff (hopen : ¬ (shape.walk v).Stopped) (settings : Settings) :
    extend none ((shape.findings v).log settings.indexMark) = none ↔
      shape.accepts v settings = .ok true := by
  rw [accepts_eq_ok_true_iff, (shape.walk_inStep v).fits_iff hopen, found_walk shape hopen,
    List.isEmpty_iff, Report.Node.extend_none_eq_none_iff, Findings.log, List.map_eq_nil_iff]

/-- **The report below a place is the report of the place.**  Suppose that a validation has an
outcome, that no map in the value has two keys for one field, and that steps lead to a place, from
arrays to items and from maps to declared fields, and to no alternatives.  Then the validation of
what is at the place, with the same settings, has an outcome too.  The node of the place is the
topmost node of its report, with all messages and branches in their order; there is none exactly if
the part fits. -/
theorem get?_validate (h : shape.Leads v route place part)
    (hsteps : ∀ turn ∈ route, turn.step?.isSome = true) (hv : v.Unambiguous)
    {settings : Settings} {outcome : Outcome}
    (houtcome : shape.validate v settings = .ok outcome) :
    ∃ inner, place.validate part settings = .ok inner ∧
      outcome.report.get? route.path = inner.report.top ∧
      (outcome.report.get? route.path = none ↔ place.accepts part settings = .ok true) := by
  have hopen : ¬ (place.walk part).Stopped := by
    rw [stopped_walk_iff]
    exact fun hplace => not_stopped_of_validate houtcome
      ((shape.stopped_walk_iff v).mpr (h.violates_of_place hplace))
  have hinner := validate_eq_of_not_stopped hopen settings
  obtain ⟨hmark, htop⟩ := top_report_validate houtcome
  have hget : outcome.report.get? route.path =
      extend none ((place.findings part).log settings.indexMark) := by
    rw [Report.get?, hmark, htop]
    exact h.get?_findings hsteps hv settings.indexMark
  refine ⟨_, hinner, ?_, ?_⟩
  · rw [hget, (top_report_validate hinner).2]
  · rw [hget, extend_findings_eq_none_iff hopen]

/-- Two records in an array in a field, beside an undeclared key and an absent field, and in a shape
that repeats a name: one with an undeclared key, an absent field and a misfit, and one that fits. -/
theorem get?_validate_of_record :
    let place := Shape.record [("x", .exact .text), ("y", .sequence .nothing)]
    let shape := Shape.record [("rows", .sequence place), ("id", .any), ("rows", .nothing)]
    let part := Value.map [(.text "y", .array [.null]), (.number 1, .null)]
    let fitting := Value.map [(.text "x", .text ""), (.text "y", .array [])]
    let v := Value.map [(.text "more", .null), (.text "rows", .array [part, fitting])]
    let route : Route := [.entry 1 "rows", .item 0]
    let other : Route := [.entry 1 "rows", .item 1]
    ∃ outcome inner, (shape.Leads v route place part ∧ shape.Leads v other place fitting) ∧
      (∀ turn ∈ route ++ other, turn.step?.isSome = true) ∧ v.Unambiguous ∧
      shape.validate v .usual = .ok outcome ∧ place.validate part .usual = .ok inner ∧
      outcome.report.get? [.key "rows", .index 0] = inner.report.top ∧
      inner.report.top.map (fun node => Entries.keys node.children) = some ["1", "x", "y"] ∧
      outcome.report.get? [.key "rows", .index 1] = none := by
  intro place shape part fitting v route other
  have hrows : [(Key.text "more", Value.null), (.text "rows", .array [part, fitting])][1]? =
      some (.text "rows", .array [part, fitting]) := rfl
  have hleads : shape.Leads v route place part := .entry hrows rfl (.item rfl .here)
  have hother : shape.Leads v other place fitting := .entry hrows rfl (.item rfl .here)
  have hsteps : ∀ turn ∈ route ++ other, turn.step?.isSome = true := by decide
  have hpart : part.Unambiguous := by
    refine .map (by decide) fun entry hentry => ?_
    rcases List.mem_pair.mp hentry with rfl | rfl
    · exact .array fun item hitem => List.mem_singleton.mp hitem ▸ .scalar rfl
    · exact .scalar rfl
  have hfitting : fitting.Unambiguous := by
    refine .map (by decide) fun entry hentry => ?_
    rcases List.mem_pair.mp hentry with rfl | rfl
    · exact .scalar rfl
    · exact .array fun _ hitem => absurd hitem List.not_mem_nil
  have hv : v.Unambiguous := by
    refine .map (by decide) fun entry hentry => ?_
    rcases List.mem_pair.mp hentry with rfl | rfl
    · exact .scalar rfl
    · exact .array fun item hitem => by
        rcases List.mem_pair.mp hitem with rfl | rfl
        · exact hpart
        · exact hfitting
  obtain ⟨inner, hinner, htop, -⟩ :=
    get?_validate hleads (List.forall_mem_append.mp hsteps).1 hv rfl
  obtain ⟨-, -, -, hnone⟩ := get?_validate hother (List.forall_mem_append.mp hsteps).2 hv rfl
  refine ⟨_, inner, ⟨hleads, hother⟩, hsteps, hv, rfl, hinner, htop, ?_, hnone.mpr rfl⟩
  cases hinner
  rfl

end Shape

end DataShape
