import Mathlib.Data.List.Perm.Basic
import DataShape.Proofs.Matching.Conformance
import DataShape.Proofs.Matching.Findings
import DataShape.Proofs.Matching.Places

/-!
# The order of entries and fields

A match visits the entries of a map and the fields of a record in their order, and knows keys by
their normalized form.  Which violation it meets first, the texts of its messages and their order
depend on that.  Whether it is stopped, its verdict and the places of its messages do not: two walks
through values that differ only in the order of entries and in the types of keys, and along shapes
that differ only in the order of fields, find as many mismatches at each place.

* `Value.Alike`, `Shape.Alike` — the same up to order and the types of keys.
* `Walk.Alike` — walks that end alike and find as much at each place.
* `Shape.Alike.walk` — **along alike shapes, alike values walk alike.**
* `Shape.accepts_alike` — what this means for verdicts and reports.
-/

namespace DataShape

/-! ## The same up to order -/

/-- The values differ only in the order of entries and in the types of keys: the entries of two maps
are, in some order, the same names with alike values. -/
inductive Value.Alike : Value → Value → Prop
  | scalar {v : Value} : v.isScalar = true → Alike v v
  | array (pairs : List (Value × Value)) : (∀ pair ∈ pairs, Alike pair.1 pair.2) →
      Alike (.array (pairs.map (·.1))) (.array (pairs.map (·.2)))
  | map (pairs : List (String × Value × Value)) {entries others : List (Key × Value)} :
      (byName entries).Perm (pairs.map fun pair => (pair.1, pair.2.1)) →
      (byName others).Perm (pairs.map fun pair => (pair.1, pair.2.2)) →
      (∀ pair ∈ pairs, Alike pair.2.1 pair.2.2) → Alike (.map entries) (.map others)

/-- The shapes differ only in the order of the fields of records.  Templates are the same.  Records
declare no field twice, as all that are built from their fields. -/
inductive Shape.Alike : Shape → Shape → Prop
  | exact {kind : Kind} : Alike (.exact kind) (.exact kind)
  | sequence {item other : Shape} : Alike item other → Alike (.sequence item) (.sequence other)
  | record (pairs : List (String × Shape × Shape)) {fields others : List (String × Shape)} :
      (Entries.keys fields).Nodup →
      fields.Perm (pairs.map fun pair => (pair.1, pair.2.1)) →
      others.Perm (pairs.map fun pair => (pair.1, pair.2.2)) →
      (∀ pair ∈ pairs, Alike pair.2.1 pair.2.2) → Alike (.record fields) (.record others)
  | union (pairs : List (Shape × Shape)) : (∀ pair ∈ pairs, Alike pair.1 pair.2) →
      Alike (.union (pairs.map (·.1))) (.union (pairs.map (·.2)))
  | optional {inner other : Shape} : Alike inner other → Alike (.optional inner) (.optional other)
  | any : Alike .any .any
  | nothing : Alike .nothing .nothing
  | pattern {p : Pattern} : Alike (.pattern p) (.pattern p)
  | literal {v : Value} : Alike (.literal v) (.literal v)

/-- The walks end alike, and if they are not stopped they find as much at each place. -/
structure Walk.Alike (w other : Walk) : Prop where
  stopped_iff : w.Stopped ↔ other.Stopped
  fits_iff : w.Fits ↔ other.Fits
  places_perm : ¬ w.Stopped → (w.found.map (·.1)).Perm (other.found.map (·.1))

/-- Lists that are, each in its own order, the sides of some pairs have the same images if both
sides of each pair have. -/
lemma map_perm_of_pairs {α β γ δ : Type} {list : List α} {others : List β} {pairs : List γ}
    {left : γ → α} {right : γ → β} {f : α → δ} {g : β → δ} (hlist : list.Perm (pairs.map left))
    (hothers : others.Perm (pairs.map right))
    (h : ∀ pair ∈ pairs, f (left pair) = g (right pair)) : (list.map f).Perm (others.map g) := by
  have hleft := hlist.map f
  have hright := hothers.map g
  rw [List.map_map] at hleft hright
  exact hleft.trans ((List.Perm.of_eq (List.map_congr_left h)).trans hright.symm)

/-! ## Ways of putting walks together -/

namespace Walk

lemma alike_refl (w : Walk) : w.Alike w := ⟨Iff.rfl, Iff.rfl, fun _ => List.Perm.refl _⟩

/-- Two misses at one place, whatever their messages say. -/
lemma alike_miss (m other : Mismatch) : Alike (miss m) (miss other) :=
  ⟨by simp, by simp, fun _ => List.Perm.refl _⟩

lemma alike_ite {c d : Prop} [Decidable c] [Decidable d] (h : c ↔ d) (m other : Mismatch) :
    Alike (if c then pass else miss m) (if d then pass else miss other) := by
  by_cases hc : c
  · rw [if_pos hc, if_pos (h.mp hc)]
    exact alike_refl pass
  · rw [if_neg hc, if_neg (mt h.mpr hc)]
    exact alike_miss m other

lemma Alike.under {w other : Walk} (h : w.Alike other) (step : Segment) :
    (w.under step).Alike (other.under step) := by
  refine ⟨by simpa using h.stopped_iff, by simpa using h.fits_iff, fun hopen => ?_⟩
  have hplaces := (h.places_perm (by simpa using hopen)).map (step :: ·)
  simpa only [found_under, Findings.under, List.map_map, Function.comp_def] using hplaces

lemma Alike.andThen {first second other next : Walk} (h : first.Alike other)
    (h' : second.Alike next) : (first.andThen second).Alike (other.andThen next) := by
  have hstopped : (first.andThen second).Stopped ↔ (other.andThen next).Stopped := by
    rw [stopped_andThen, stopped_andThen, h.stopped_iff, h'.stopped_iff]
  refine ⟨hstopped, ?_, fun hopen => ?_⟩
  · rw [fits_andThen, fits_andThen, h.fits_iff, h'.fits_iff]
  · rw [found_andThen hopen, found_andThen (mt hstopped.mpr hopen), List.map_append,
      List.map_append]
    rw [stopped_andThen, not_or] at hopen
    exact (h.places_perm hopen.1).append (h'.places_perm hopen.2)

section Rows

variable {α β γ : Type} {list : List α} {others : List β} {f : α → Walk} {g : β → Walk}

/-- **The order of a row does not matter.**  Two rows are alike if they are, each in its own order,
walks that are alike pair by pair. -/
lemma alike_all (pairs : List γ) {left : γ → α} {right : γ → β} (hlist : list.Perm (pairs.map left))
    (hothers : others.Perm (pairs.map right))
    (hpairs : ∀ pair ∈ pairs, (f (left pair)).Alike (g (right pair))) :
    (all (list.map f)).Alike (all (others.map g)) := by
  have hmem : ∀ P : Walk → Prop, ((∃ w ∈ list.map f, P w) ↔ ∃ pair ∈ pairs, P (f (left pair))) := by
    intro P
    simp only [List.mem_map, exists_exists_and_eq_and, hlist.mem_iff]
  have hmem' : ∀ P : Walk → Prop,
      ((∃ w ∈ others.map g, P w) ↔ ∃ pair ∈ pairs, P (g (right pair))) := by
    intro P
    simp only [List.mem_map, exists_exists_and_eq_and, hothers.mem_iff]
  have hstopped : (all (list.map f)).Stopped ↔ (all (others.map g)).Stopped := by
    rw [stopped_all, stopped_all, hmem, hmem']
    exact exists_congr fun pair => and_congr_right fun hpair => (hpairs pair hpair).stopped_iff
  refine ⟨hstopped, ?_, fun hopen => ?_⟩
  · rw [fits_all, fits_all, ← not_iff_not]
    simp only [not_forall, exists_prop]
    rw [hmem (¬ ·.Fits), hmem' (¬ ·.Fits)]
    exact exists_congr fun pair => and_congr_right fun hpair =>
      not_congr (hpairs pair hpair).fits_iff
  · have hparts : ∀ pair ∈ pairs, ¬ (f (left pair)).Stopped := fun pair hpair hpart =>
      hopen ((stopped_all _).mpr ((hmem Stopped).mpr ⟨pair, hpair, hpart⟩))
    have hwhole : ∀ pair ∈ pairs, ((f (left pair)).found.map (·.1)).Perm
        ((g (right pair)).found.map (·.1)) := fun pair hpair =>
      (hpairs pair hpair).places_perm (hparts pair hpair)
    rw [found_all hopen, found_all (mt hstopped.mpr hopen), List.map_flatMap, List.map_flatMap,
      List.flatMap_map, List.flatMap_map]
    refine (hlist.flatMap_right _).trans (List.Perm.trans ?_ (hothers.flatMap_right _).symm)
    rw [List.flatMap_map, List.flatMap_map]
    exact List.Perm.flatMap_left pairs hwhole

end Rows

lemma alike_anyOf {α : Type} {f g : α → Walk} {list : List α}
    (h : ∀ a ∈ list, (f a).Alike (g a)) (rejection other : Mismatch) :
    (anyOf rejection (list.map f)).Alike (anyOf other (list.map g)) := by
  have hsome : (∃ w ∈ list.map f, w.Stopped) ↔ ∃ w ∈ list.map g, w.Stopped := by
    simp only [List.mem_map, exists_exists_and_eq_and]
    exact exists_congr fun a => and_congr_right fun ha => (h a ha).stopped_iff
  have hstopped : (anyOf rejection (list.map f)).Stopped ↔ (anyOf other (list.map g)).Stopped := by
    rw [stopped_anyOf, stopped_anyOf, hsome]
  have hfits : (anyOf rejection (list.map f)).Fits ↔ (anyOf other (list.map g)).Fits := by
    rw [fits_anyOf, fits_anyOf, hsome]
    simp only [List.mem_map, exists_exists_and_eq_and]
    exact and_congr_right fun _ => exists_congr fun a => and_congr_right fun ha => (h a ha).fits_iff
  refine ⟨hstopped, hfits, fun hopen => ?_⟩
  have hcases := anyOf_eq_of_not_stopped (mt hstopped.mpr hopen)
  rcases anyOf_eq_of_not_stopped hopen with hpass | hmiss
  · have hright := hcases.resolve_right fun hright =>
      not_fits_miss other (hright ▸ hfits.mp (hpass ▸ fits_pass))
    rw [hpass, hright]
  · have hright := hcases.resolve_left fun hright =>
      not_fits_miss rejection (hmiss ▸ hfits.mpr (hright ▸ fits_pass))
    rw [hmiss, hright]
    exact List.Perm.refl _

end Walk

/-! ## Alike values -/

namespace Value.Alike

variable {v w : Value}

lemma kind_eq (h : v.Alike w) : v.kind = w.kind := by
  cases h <;> rfl

lemma text?_eq (h : v.Alike w) : v.text? = w.text? := by
  cases h <;> rfl

/-- A scalar equals alike values alike: it never equals an array or a map. -/
lemma equal_eq (h : v.Alike w) {expected : Value} (hscalar : expected.isScalar = true) :
    v.equal expected = w.equal expected := by
  cases h with
  | scalar _ => rfl
  | array pairs _ => cases expected <;> first | rfl | exact Bool.noConfusion hscalar
  | map pairs _ _ _ => cases expected <;> first | rfl | exact Bool.noConfusion hscalar

end Value.Alike

namespace Walk

variable {v w : Value}

/-! ## Rules -/

lemma alike_exact (h : v.Alike w) (kind : Kind) : (exact kind v).Alike (exact kind w) :=
  alike_ite (by rw [h.kind_eq]) _ _

lemma alike_literal (h : v.Alike w) {expected : Value} (hscalar : expected.isScalar = true) :
    (literal expected v).Alike (literal expected w) :=
  alike_ite (by rw [h.equal_eq hscalar]) _ _

lemma alike_stop (cause other : Violation.Cause) : (stop cause).Alike (stop other) :=
  ⟨iff_of_true ⟨_, rfl⟩ ⟨_, rfl⟩, by simp [Fits, stop], fun hopen => absurd ⟨_, rfl⟩ hopen⟩

lemma alike_pattern (h : v.Alike w) (p : Pattern) : (pattern p v).Alike (pattern p w) := by
  rw [pattern, pattern, h.text?_eq]
  cases w.text? with
  | none => exact alike_stop _ _
  | some text => exact alike_ite Iff.rfl _ _

lemma alike_sequence {item other : Value → Walk}
    (hitem : ∀ v w, Value.Alike v w → (item v).Alike (other w)) (h : v.Alike w) :
    (sequence item v).Alike (sequence other w) := by
  cases h with
  | array pairs hpairs =>
      refine alike_all pairs.zipIdx (List.Perm.of_eq List.zipIdx_map)
        (List.Perm.of_eq List.zipIdx_map) fun pair hpair => ?_
      exact (hitem _ _ (hpairs pair.1 (List.fst_mem_of_mem_zipIdx hpair))).under _
  | map pairs _ _ _ => exact alike_miss _ _
  | scalar hscalar =>
      cases v with
      | array items => exact Bool.noConfusion hscalar
      | _ => exact alike_miss _ _

section Record

variable {declared others : Matching.Declarations} {field other : String → Option (Value → Walk)}

/-- Fields with the same name walk alike, along alike values. -/
def FieldsAlike (field other : String → Option (Value → Walk)) : Prop :=
  ∀ name, Option.Rel (fun part second => ∀ v w, Value.Alike v w → (part v).Alike (second w))
    (field name) (other name)

lemma FieldsAlike.isSome_eq (h : FieldsAlike field other) (name : String) :
    (field name).isSome = (other name).isSome := by
  have hname := h name
  generalize field name = part at hname ⊢
  generalize other name = second at hname ⊢
  cases hname <;> rfl

lemma FieldsAlike.fieldValue (h : FieldsAlike field other) (key : String) (hv : v.Alike w) :
    (fieldValue (field key) key v).Alike (fieldValue (other key) key w) := by
  have hkey := h key
  generalize field key = part at hkey ⊢
  generalize other key = second at hkey ⊢
  cases hkey with
  | none => exact alike_refl pass
  | some hpart => exact (hpart v w hv).under (.key key)

lemma alike_record (hdeclared : declared.Perm others) (hfield : FieldsAlike field other)
    (h : v.Alike w) : (record declared field v).Alike (record others other w) := by
  cases h with
  | @map pairs entries more hentries hmore hpairs =>
      have hnames : ((Value.byName entries).map (·.1)).Perm ((Value.byName more).map (·.1)) :=
        map_perm_of_pairs hentries hmore fun _ _ => rfl
      have hexpected : (all (expectedKeys field (Value.byName entries))).Alike
          (all (expectedKeys other (Value.byName more))) := by
        refine alike_all pairs hentries hmore fun pair _ => ?_
        rw [hfield.isSome_eq]
        exact alike_refl _
      have hcomplete : (all (presentFields declared (Value.byName entries))).Alike
          (all (presentFields others (Value.byName more))) := by
        have hleft : declared.Perm (others.map id) := by rwa [List.map_id]
        have hright : others.Perm (others.map id) := by rw [List.map_id]
        refine alike_all others hleft hright fun entry _ => ?_
        rw [List.contains_eq_mem, List.contains_eq_mem, decide_eq_decide.mpr hnames.mem_iff]
        exact alike_refl _
      have hfitting : (all (fieldValues field (Value.byName entries))).Alike
          (all (fieldValues other (Value.byName more))) :=
        alike_all pairs hentries hmore fun pair hpair =>
          hfield.fieldValue pair.1 (hpairs pair hpair)
      rw [record, record, all_append, all_append, all_append, all_append]
      exact (hexpected.andThen hcomplete).andThen hfitting
  | array pairs _ => exact alike_miss _ _
  | scalar hscalar =>
      cases v with
      | map entries => exact Bool.noConfusion hscalar
      | _ => exact alike_miss _ _

end Record

end Walk

/-! ## Alike shapes -/

namespace Shape

/-- Along one template, alike values walk alike. -/
lemma walk_template_alike (template : Value) {v w : Value} (h : v.Alike w) :
    ((literal template).walk v).Alike ((literal template).walk w) := by
  induction template generalizing v w with
  | array items ih =>
      cases items with
      | nil => exact Walk.alike_refl _
      | cons item rest =>
          rw [walk_arrayTemplate, walk_arrayTemplate, walk_sequence, walk_sequence]
          exact Walk.alike_sequence (fun v w h => ih item List.mem_cons_self h) h
  | map entries ih =>
      rw [walk_mapTemplate, walk_mapTemplate, walk_record, walk_record]
      refine Walk.alike_record (List.Perm.refl _) (fun name => ?_) h
      cases hname : Entries.lookup? name (Value.templateFields entries) with
      | none => exact .none
      | some s =>
          obtain ⟨entry, hentry, hfield⟩ := List.mem_map.mp (Entries.mem_of_lookup? hname)
          cases hfield
          exact .some fun v w h => ih entry hentry h
  | _ =>
      rw [walk_scalar rfl, walk_scalar rfl]
      exact Walk.alike_literal h rfl

lemma Alike.isRequired_eq {shape other : Shape} (h : shape.Alike other) :
    shape.isRequired = other.isRequired := by
  cases h <;> rfl

/-- **Along alike shapes, alike values walk alike.** -/
theorem Alike.walk {shape other : Shape} (h : shape.Alike other) {v w : Value} (hv : v.Alike w) :
    (shape.walk v).Alike (other.walk w) := by
  induction h generalizing v w with
  | exact => exact Walk.alike_exact hv _
  | sequence _ ih =>
      rw [walk_sequence, walk_sequence]
      exact Walk.alike_sequence (fun v w h => ih h) hv
  | @record pairs fields others hnames hfields hothers hpairs ih =>
      rw [walk_record, walk_record]
      refine Walk.alike_record ?_ (fun name => ?_) hv
      · refine map_perm_of_pairs hfields hothers fun pair hpair => ?_
        rw [(hpairs pair hpair).isRequired_eq]
      · have hkeys : (Entries.keys fields).Perm (Entries.keys others) :=
          map_perm_of_pairs hfields hothers fun _ _ => rfl
        rw [Entries.lookup?_perm hnames hfields,
          Entries.lookup?_perm (hkeys.nodup_iff.mp hnames) hothers,
          Entries.lookup?_map name (Prod.fst : Shape × Shape → Shape),
          Entries.lookup?_map name (Prod.snd : Shape × Shape → Shape)]
        cases hname : Entries.lookup? name pairs with
        | none => exact .none
        | some pair => exact .some fun v w h => ih _ (Entries.mem_of_lookup? hname) h
  | union pairs _ ih =>
      rw [walk_union, walk_union, List.map_map, List.map_map]
      exact Walk.alike_anyOf (fun pair hpair => ih pair hpair hv) _ _
  | @optional inner other _ ih =>
      have hboth : ∀ pair ∈ [(inner.walk v, other.walk w), (.exact .null v, .exact .null w)],
          Walk.Alike pair.1 pair.2 := by
        simpa using ⟨ih hv, Walk.alike_exact hv .null⟩
      exact Walk.alike_anyOf hboth _ _
  | any => exact Walk.alike_refl _
  | nothing => exact Walk.alike_refl _
  | pattern => exact Walk.alike_pattern hv _
  | literal => exact walk_template_alike _ hv

/-- **The order of entries and fields and the types of keys decide no verdict.**  Two matches of
alike shapes and alike values are both stopped, or have the same verdict; and with a verdict, all
that they record is at the same places, as often at each. -/
theorem accepts_alike {shape other : Shape} (hshape : shape.Alike other) {v w : Value}
    (hv : v.Alike w) (settings : Settings) :
    (shape.accepts v settings).toOption = (other.accepts w settings).toOption ∧
    ∀ verdict, shape.accepts v settings = .ok verdict →
      (∃ log, shape.Logs v log) ∧ (∃ log, other.Logs w log) ∧
      ∀ log more, shape.Logs v log → other.Logs w more → (log.map (·.1)).Perm (more.map (·.1)) := by
  have hwalk := hshape.walk hv
  constructor
  · rw [toOption_accepts, toOption_accepts]
    exact Walk.toOption_ending_eq hwalk.stopped_iff hwalk.fits_iff
  · intro verdict hverdict
    have hopen := (exists_accepts_eq_ok_iff shape v settings).mp ⟨verdict, hverdict⟩
    refine ⟨⟨_, logs_walk shape v⟩, ⟨_, logs_walk other w⟩, fun log more hlog hmore => ?_⟩
    have hfirst := hlog.places_perm (logs_walk shape v)
    have hlast := (logs_walk other w).places_perm hmore
    exact hfirst.trans ((hwalk.places_perm hopen).trans hlast)

/-- Three entries in opposite orders, whose keys have other types; two of them are not declared. -/
theorem accepts_alike_of_record :
    let shape := record [("1", .exact .text), ("b", .any)]
    let other := record [("b", .any), ("1", .exact .text)]
    let v := Value.map [(.number 1, .null), (.flag true, .integer 2), (.text "x", .null)]
    let w := Value.map [(.text "x", .null), (.text "true", .integer 2), (.text "1", .null)]
    let misfit := Mismatch.wrongKind Value.null.inspect Kind.text.name
    let log : Findings := [([.key "true"], .undeclaredKey "true"), ([.key "x"], .undeclaredKey "x"),
      ([.key "b"], .absentKey "b"), ([.key "1"], misfit)]
    let more : Findings := [([.key "x"], .undeclaredKey "x"),
      ([.key "true"], .undeclaredKey "true"), ([.key "b"], .absentKey "b"), ([.key "1"], misfit)]
    shape.Alike other ∧ v.Alike w ∧
      (shape.accepts v .usual).toOption = (other.accepts w .usual).toOption ∧
      shape.accepts v .usual = .ok false ∧ shape.Logs v log ∧ other.Logs w more ∧
      (log.map (·.1)).Perm (more.map (·.1)) := by
  intro shape other v w misfit log more
  have hshape : shape.Alike other := by
    refine .record [("1", .exact .text, .exact .text), ("b", .any, .any)] (by decide)
      (List.Perm.refl _) (List.Perm.swap _ _ _) fun pair hpair => ?_
    rcases List.mem_pair.mp hpair with rfl | rfl
    · exact .exact
    · exact .any
  have hv : v.Alike w := by
    refine .map [("1", .null, .null), ("true", .integer 2, .integer 2), ("x", .null, .null)]
      (List.Perm.refl _)
      (List.reverse_perm [("1", Value.null), ("true", Value.integer 2), ("x", Value.null)])
      fun pair hpair => ?_
    simp only [List.mem_cons, List.not_mem_nil, or_false] at hpair
    rcases hpair with rfl | rfl | rfl <;> exact .scalar rfl
  have hlog : shape.Logs v log := shape.logs_walk v
  have hmore : other.Logs w more := other.logs_walk w
  have hverdict : shape.accepts v .usual = .ok false := rfl
  obtain ⟨hsame, hplaces⟩ := accepts_alike hshape hv .usual
  exact ⟨hshape, hv, hsame, hverdict, hlog, hmore,
    (hplaces false hverdict).2.2 log more hlog hmore⟩

end Shape

end DataShape
