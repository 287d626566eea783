import DataShape.Proofs.Matching.Findings
import DataShape.Proofs.Report.Traversal
import DataShape.Proofs.Unambiguous

/-!
# The report of a validation

If no name is repeated, the parts of a place have different names: an array has different positions,
and the undeclared, the absent and the declared fields of a map have different names.  So what goes
from parts with different names to the whole holds of all findings.  The order of a report is such a
property, and a validation reports the findings in the order in which they were met.

* `Findings.Kept` — properties that go from parts with different names to the whole.
* `Findings.Kept.findings` — **the findings have every such property.**
* `Findings.log` — findings by the names that lead to their places.
* `Shape.orderly_findings` — the findings have the order of a report.
* `Shape.toList_validate` — **a validation reports the findings, in their order.**
-/

namespace DataShape

open Report.Node (Orderly)

/-! ## Names of parts -/

/-- Positions of an array have different names. -/
lemma Segment.render_index_injective (mark : String) :
    Function.Injective fun position => (Segment.index position).render mark := by
  intro i j h
  have htext : (Decimal.integerText i).toList = (Decimal.integerText j).toList :=
    congrArg String.toList ((String.append_right_inj mark).mp h)
  have hdigits : Nat.toDigits 10 i = Nat.toDigits 10 j := by
    have hi : ¬ (i : Int) < 0 := Int.not_lt.mpr (Int.natCast_nonneg i)
    have hj : ¬ (j : Int) < 0 := Int.not_lt.mpr (Int.natCast_nonneg j)
    simpa [Decimal.integerText, Decimal.integerChars, Decimal.digitsOf, hi, hj] using htext
  rw [← Nat.ofDigitChars_ten_toDigits (n := i), hdigits, Nat.ofDigitChars_ten_toDigits]

namespace Findings

/-- A property of findings that goes from parts with different names to the whole. -/
structure Kept (mark : String) (P : Findings → Prop) : Prop where
  nil : P []
  single (m : Mismatch) : P (single m)
  ofParts {parts : List (Segment × Findings)} :
    (parts.map fun part => part.1.render mark).Nodup → (∀ part ∈ parts, P part.2) →
      P (ofParts parts)

variable {mark : String} {P : Findings → Prop}

/-! ## Rules -/

/-- A place that a condition decides on. -/
lemma Kept.ite (hP : Kept mark P) (c : Prop) [Decidable c] (m : Mismatch) :
    P (if c then [] else Findings.single m) := by
  split_ifs
  · exact hP.nil
  · exact hP.single m

lemma Kept.exact (hP : Kept mark P) (kind : Kind) (v : Value) : P (.exact kind v) := hP.ite _ _

lemma Kept.literal (hP : Kept mark P) (expected v : Value) : P (.literal expected v) := hP.ite _ _

lemma Kept.pattern (hP : Kept mark P) (p : Pattern) (v : Value) : P (.pattern p v) := by
  rw [Findings.pattern]
  cases v.text? with
  | none => exact hP.nil
  | some s => exact hP.ite _ _

lemma Kept.anyOf (hP : Kept mark P) (rejection : Mismatch) (alternatives : List Findings) :
    P (.anyOf rejection alternatives) := hP.ite _ _

/-- The items of an array have different names. -/
lemma nodup_names_items (item : Value → Findings) (parts : List Value) :
    ((parts.zipIdx.map fun part => (Segment.index part.2, item part.1)).map
      fun part => part.1.render mark).Nodup := by
  have hpositions : ((parts.zipIdx.map (·.2)).map fun position =>
      (Segment.index position).render mark).Nodup :=
    (List.zipIdx_map_snd 0 parts ▸ List.nodup_range').map (Segment.render_index_injective mark)
  rwa [List.map_map] at hpositions ⊢

lemma Kept.sequence (hP : Kept mark P) {item : Value → Findings}
    (hitem : ∀ part, part.Unambiguous → P (item part)) {v : Value} (hv : v.Unambiguous) :
    P (.sequence item v) := by
  cases v with
  | array parts =>
      cases hv with
      | scalar h => exact Bool.noConfusion h
      | array hparts =>
          refine hP.ofParts (nodup_names_items item parts) fun part hpart => ?_
          obtain ⟨entry, hentry, rfl⟩ := List.mem_map.mp hpart
          exact hitem entry.1 (hparts entry.1 (List.fst_mem_of_mem_zipIdx hentry))
  | _ => exact hP.single _

section Record

variable {declared : Matching.Declarations} {field : String → Option (Value → Findings)}
  {present : Entries String Value}

lemma mem_undeclared {part : Segment × Findings} (h : part ∈ undeclared field present) :
    ∃ name ∈ Entries.keys present, field name = none ∧
      part = (.key name, single (.undeclaredKey name)) := by
  obtain ⟨entry, hentry, hpart⟩ := List.mem_filterMap.mp h
  split_ifs at hpart with hfield
  exact ⟨entry.1, List.mem_map_of_mem hentry, by simpa using hfield, (Option.some.inj hpart).symm⟩

lemma mem_absent {part : Segment × Findings} (h : part ∈ absent declared present) :
    ∃ name ∉ Entries.keys present, part = (.key name, single (.absentKey name)) := by
  obtain ⟨entry, hentry, hpart⟩ := List.mem_filterMap.mp h
  split_ifs at hpart with habsent
  exact ⟨entry.1, by simpa using (Bool.and_eq_true_iff.mp habsent).2, (Option.some.inj hpart).symm⟩

lemma mem_fieldValues {part : Segment × Findings} (h : part ∈ fieldValues field present) :
    ∃ entry ∈ present, ∃ list, field entry.1 = some list ∧
      part = (.key entry.1, list entry.2) := by
  obtain ⟨entry, hentry, hpart⟩ := List.mem_filterMap.mp h
  obtain ⟨list, hlist, rfl⟩ := Option.map_eq_some_iff.mp hpart
  exact ⟨entry, hentry, list, hlist, rfl⟩

/-- No declared field has the name of an undeclared key. -/
lemma undeclared_name_ne {part : Segment × Findings} (h : part ∈ undeclared field present)
    {name : String} {list : Value → Findings} (hname : field name = some list) :
    part.1.render mark ≠ name := by
  obtain ⟨other, -, hother, rfl⟩ := mem_undeclared h
  rintro rfl
  cases hother.symm.trans hname

/-- No key of the map has the name of an absent field. -/
lemma absent_name_ne {part : Segment × Findings} (h : part ∈ absent declared present)
    {name : String} (hname : name ∈ Entries.keys present) : part.1.render mark ≠ name := by
  obtain ⟨other, hother, rfl⟩ := mem_absent h
  rintro rfl
  exact hother hname

/-- Parts that are chosen from the entries of a table, under their keys, repeat no name if the
table does not. -/
lemma nodup_names {β : Type} {list : Entries String β}
    {part : String × β → Option (Segment × Findings)}
    (hlist : (Entries.keys list).Nodup)
    (h : ∀ entry chosen, part entry = some chosen → chosen.1 = .key entry.1) :
    ((list.filterMap part).map fun part => part.1.render mark).Nodup := by
  refine List.Nodup.sublist ?_ hlist
  clear hlist
  induction list with
  | nil => exact List.Sublist.slnil
  | cons entry rest ih =>
      rw [List.filterMap_cons]
      cases hpart : part entry with
      | none => exact ih.cons _
      | some chosen =>
          have hname : chosen.1.render mark = entry.1 := by rw [h entry chosen hpart]; rfl
          simp only [List.map_cons, hname]
          exact ih.cons_cons _

lemma nodup_names_fieldValues (hpresent : (Entries.keys present).Nodup) :
    ((fieldValues field present).map fun part => part.1.render mark).Nodup := by
  refine nodup_names hpresent fun entry chosen hpart => ?_
  obtain ⟨list, -, rfl⟩ := Option.map_eq_some_iff.mp hpart
  rfl

/-- The undeclared, the absent and the declared fields of a map have different names. -/
lemma nodup_names_record (hdeclared : (Entries.keys declared).Nodup)
    (hpresent : (Entries.keys present).Nodup) :
    ((undeclared field present ++ absent declared present ++ fieldValues field present).map
      fun part => part.1.render mark).Nodup := by
  have hundeclared : ((undeclared field present).map fun part => part.1.render mark).Nodup := by
    refine nodup_names hpresent fun entry chosen hpart => ?_
    split_ifs at hpart
    rw [← Option.some.inj hpart]
  have habsent : ((absent declared present).map fun part => part.1.render mark).Nodup := by
    refine nodup_names hdeclared fun entry chosen hpart => ?_
    split_ifs at hpart
    rw [← Option.some.inj hpart]
  rw [List.map_append, List.map_append]
  refine (hundeclared.append habsent ?_).append (nodup_names_fieldValues hpresent) ?_
  · intro name hleft hright
    obtain ⟨_, hpart, rfl⟩ := List.mem_map.mp hleft
    obtain ⟨first, hfirst, -, rfl⟩ := mem_undeclared hpart
    obtain ⟨_, hother, hsame⟩ := List.mem_map.mp hright
    exact absent_name_ne hother hfirst hsame
  · intro name hleft hright
    obtain ⟨_, hother, rfl⟩ := List.mem_map.mp hright
    obtain ⟨entry, hentry, list, hlist, rfl⟩ := mem_fieldValues hother
    rw [List.mem_append] at hleft
    rcases hleft with hleft | hleft
    · obtain ⟨_, hpart, hsame⟩ := List.mem_map.mp hleft
      exact undeclared_name_ne hpart hlist hsame
    · obtain ⟨_, hpart, hsame⟩ := List.mem_map.mp hleft
      exact absent_name_ne hpart (List.mem_map_of_mem hentry) hsame

lemma Kept.record (hP : Kept mark P) (hdeclared : (Entries.keys declared).Nodup)
    (hfield : ∀ name list, field name = some list → ∀ v, v.Unambiguous → P (list v)) {v : Value}
    (hv : v.Unambiguous) : P (.record declared field v) := by
  cases v with
  | map entries =>
      cases hv with
      | scalar h => exact Bool.noConfusion h
      | map hpresent hentries =>
          refine hP.ofParts (nodup_names_record hdeclared hpresent) fun part hpart => ?_
          rw [List.mem_append, List.mem_append] at hpart
          rcases hpart with (hpart | hpart) | hpart
          · obtain ⟨name, -, -, rfl⟩ := mem_undeclared hpart
            exact hP.single _
          · obtain ⟨name, -, rfl⟩ := mem_absent hpart
            exact hP.single _
          · obtain ⟨_, hentry, list, hlist, rfl⟩ := mem_fieldValues hpart
            obtain ⟨entry, hraw, rfl⟩ := List.mem_map.mp hentry
            exact hfield _ list hlist entry.2 (hentries entry hraw)
  | _ => exact hP.single _

end Record

/-- **Without repeated names, the findings have every property that is kept.** -/
theorem Kept.findings (hP : Kept mark P) {shape : Shape} (hshape : shape.Unambiguous) {v : Value}
    (hv : v.Unambiguous) : P (shape.findings v) := by
  induction shape generalizing v with
  | exact kind => exact hP.exact kind v
  | sequence item ih =>
      cases hshape with
      | sequence hitem => exact hP.sequence (fun _ hpart => ih hitem hpart) hv
  | record fields ih =>
      cases hshape with
      | record hnames hfields =>
          rw [Shape.findings_record]
          refine hP.record ?_ (fun name list hlist part hpart => ?_) hv
          · simpa [Entries.keys, Function.comp_def] using hnames
          · rw [Option.map_eq_some_iff] at hlist
            obtain ⟨s, hs, rfl⟩ := hlist
            have hmem := Entries.mem_of_lookup? hs
            exact ih (name, s) hmem (hfields (name, s) hmem) hpart
  | union alternatives ih => exact hP.anyOf _ _
  | optional inner ih => exact hP.anyOf _ _
  | any => exact hP.nil
  | nothing => exact hP.single _
  | pattern p => exact hP.pattern p v
  | scalar expected hscalar => exact Shape.findings_scalar hscalar v ▸ hP.literal expected v
  | emptyTemplate => exact hP.nil
  | arrayTemplate item rest ih => exact ih hshape.of_arrayTemplate hv
  | mapTemplate entries ih =>
      rw [Shape.findings_mapTemplate]
      exact ih hshape.of_mapTemplate hv

/-! ## The order of a report -/

/-- Findings by the names that lead to their places, as messages. -/
def log (mark : String) (found : Findings) : Report.Node.Log :=
  found.map fun entry => (entry.1.render mark, entry.2.message)

/-- The log of parts is made of the logs of the parts, each under its name. -/
lemma log_ofParts (parts : List (Segment × Findings)) :
    (ofParts parts).log mark =
      parts.flatMap fun part => (part.2.log mark).under (part.1.render mark) := by
  simp [ofParts, log, under, Report.Node.Log.under, List.map_flatMap, Path.render,
    Function.comp_def]

lemma kept_orderly (mark : String) : Kept mark fun found => Orderly (found.log mark) where
  nil := .intro [] [] List.nodup_nil fun _ hbranch => absurd hbranch List.not_mem_nil
  single m := .intro [m.message] [] List.nodup_nil fun _ hbranch => absurd hbranch List.not_mem_nil
  ofParts {parts} hnames hparts := by
    have h := Orderly.intro [] (parts.map fun part => (part.1.render mark, part.2.log mark))
      (by simpa [Entries.keys, Function.comp_def] using hnames) (List.forall_mem_map.mpr hparts)
    rw [log_ofParts]
    simpa [List.flatMap_map] using h

end Findings

/-! ## Reports -/

namespace Shape

/-- **The findings have the order of a report**, whatever the mark of positions is. -/
theorem orderly_findings {shape : Shape} (hshape : shape.Unambiguous) {v : Value}
    (hv : v.Unambiguous) (mark : String) : Orderly ((shape.findings v).log mark) :=
  (Findings.kept_orderly mark).findings hshape hv

/-- **A validation reports the findings, in their order**, if no name is repeated in the shape or in
the value. -/
theorem toList_validate {shape : Shape} (hshape : shape.Unambiguous) {v : Value}
    (hv : v.Unambiguous) {settings : Settings} {outcome : Outcome}
    (h : shape.validate v settings = .ok outcome) :
    outcome.report.toList = (shape.findings v).map fun entry =>
      (entry.1.placeText settings.indexMark, entry.2.message) := by
  rw [validate_eq_of_not_stopped (not_stopped_of_validate h), Except.ok.injEq] at h
  have hlog : (Session.new settings).logOf (shape.findings v) =
      (shape.findings v).map fun entry => (entry.1, entry.2.message) := rfl
  have horder : Orderly (((Session.new settings).logOf (shape.findings v)).map fun entry =>
      (entry.1.render settings.indexMark, entry.2)) := by
    rw [hlog, List.map_map]
    exact orderly_findings hshape hv settings.indexMark
  rw [← h, Session.finish]
  exact (Report.toList_addAll_new settings _ horder).trans (by rw [hlog, List.map_map]; rfl)

/-- An undeclared key, an absent field and a misfit inside an array. -/
theorem toList_validate_of_record :
    let shape := Shape.record [("tags", .sequence (.exact .text)), ("id", .exact .integer)]
    let v := Value.map [(.text "tags", .array [.text "a", .null]), (.number 1, .null)]
    ∃ outcome, shape.Unambiguous ∧ v.Unambiguous ∧ shape.validate v .usual = .ok outcome ∧
      outcome.report.toList = [([Segment.key "1"], Mismatch.undeclaredKey "1"),
        ([.key "id"], .absentKey "id"),
        ([.key "tags", .index 1], .wrongKind Value.null.inspect Kind.text.name)].map fun entry =>
          (Path.placeText Settings.usual.indexMark entry.1, entry.2.message) := by
  intro shape v
  have hshape : shape.Unambiguous := by
    refine .record (by decide) fun field hfield => ?_
    rcases List.mem_pair.mp hfield with rfl | rfl
    · exact .sequence .exact
    · exact .exact
  have hv : v.Unambiguous := by
    refine .map (by decide) fun entry hentry => ?_
    rcases List.mem_pair.mp hentry with rfl | rfl
    · exact .array fun item hitem => by
        rcases List.mem_pair.mp hitem with rfl | rfl <;> exact .scalar rfl
    · exact .scalar rfl
  exact ⟨_, hshape, hv, rfl, toList_validate hshape hv rfl⟩

end Shape

end DataShape
