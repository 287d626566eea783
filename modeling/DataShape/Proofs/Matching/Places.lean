import DataShape.Proofs.Matching.Listing

/-!
# Where a match reports

A report knows a place by the names of its steps, and different steps may have the same name: a key
may look like a marked position.  No match is misled by that.  Shape and value are walked in step,
so at every place the *shape* says whether the next step is a position or a key, and two mismatches
whose places go by the same names have the same places, even if they are about different values
under one name.

* `Shape.Reports` — the places where a match of a shape and a value may report a mismatch.
* `Shape.Reports.toldApart` — for one shape, these places are known by their names.
* `Shape.Logs` — what a match records, as a list of places and mismatches.
* `Shape.Logs.messagesAt_eq` — there is one such list, as far as each place is concerned.
* `Shape.logs_toldApart` — **a match never puts two places into one node of a report.**
-/

namespace DataShape

/-! ## Paths that are known by their names -/

/-- As far as the names of two paths agree, their steps do. -/
def Path.ToldApart (mark : String) (p q : Path) : Prop :=
  ∀ start other : Path, start <+: p → other <+: q → start.render mark = other.render mark →
    start = other

namespace Path

variable {mark : String} {p q : Path}

lemma toldApart_nil_left : ToldApart mark [] q := by
  intro start other hstart _ hsame
  cases List.prefix_nil.mp hstart
  exact (List.map_eq_nil_iff.mp hsame.symm).symm

lemma toldApart_nil_right : ToldApart mark p [] := by
  intro start other _ hother hsame
  cases List.prefix_nil.mp hother
  exact List.map_eq_nil_iff.mp hsame

lemma toldApart_cons {step other : Segment}
    (hstep : step.render mark = other.render mark → step = other)
    (h : step = other → ToldApart mark p q) : ToldApart mark (step :: p) (other :: q) := by
  intro start more hstart hmore hsame
  rcases List.prefix_cons_iff.mp hstart with rfl | ⟨rest, rfl, hrest⟩
  · exact (List.map_eq_nil_iff.mp hsame.symm).symm
  rcases List.prefix_cons_iff.mp hmore with rfl | ⟨last, rfl, hlast⟩
  · exact List.map_eq_nil_iff.mp hsame
  obtain ⟨hname, hnames⟩ := List.cons_eq_cons.mp hsame
  cases hstep hname
  rw [h rfl rest last hrest hlast hnames]

lemma ToldApart.head {step other : Segment} (h : ToldApart mark (step :: p) (other :: q))
    (hname : step.render mark = other.render mark) : step = other := by
  have hsteps := h [step] [other] (List.prefix_append [step] p) (List.prefix_append [other] q)
    (congrArg (fun name => [name]) hname)
  exact (List.cons.inj hsteps).1

lemma ToldApart.tail {step : Segment} (h : ToldApart mark (step :: p) (step :: q)) :
    ToldApart mark p q := by
  intro start other hstart hother hsame
  have hsteps := h (step :: start) (step :: other) (List.cons_prefix_cons.mpr ⟨rfl, hstart⟩)
    (List.cons_prefix_cons.mpr ⟨rfl, hother⟩) (congrArg (step.render mark :: ·) hsame)
  exact (List.cons.inj hsteps).2

/-- Keys that are shorter than the mark do not look like positions. -/
lemma eq_of_render_eq_of_short (hp : ∀ name, Segment.key name ∈ p → name.length < mark.length)
    (hq : ∀ name, Segment.key name ∈ q → name.length < mark.length)
    (h : p.render mark = q.render mark) : p = q := by
  induction p generalizing q with
  | nil => exact (List.map_eq_nil_iff.mp h.symm).symm
  | cons step rest ih =>
      cases q with
      | nil => cases h
      | cons other more =>
          obtain ⟨hname, hnames⟩ := List.cons_eq_cons.mp h
          have hrest : rest = more := ih (fun name hmem => hp name (List.mem_cons_of_mem _ hmem))
            (fun name hmem => hq name (List.mem_cons_of_mem _ hmem)) hnames
          have hlonger : ∀ name position, name.length < mark.length →
              name ≠ mark ++ Decimal.integerText position := by
            rintro _ position hlt rfl
            rw [String.length_append] at hlt
            omega
          cases step with
          | key name =>
              cases other with
              | key second => rw [show name = second from hname, hrest]
              | index position =>
                  exact absurd hname (hlonger name position (hp name List.mem_cons_self))
          | index position =>
              cases other with
              | key name =>
                  exact absurd hname.symm (hlonger name position (hq name List.mem_cons_self))
              | index second => rw [Segment.render_index_injective mark hname, hrest]

lemma exists_long_mark (paths : List Path) :
    ∃ mark : String, ∀ p ∈ paths, ∀ name, Segment.key name ∈ p → name.length < mark.length := by
  have hsteps : ∀ steps : List Segment,
      ∃ bound, ∀ name, Segment.key name ∈ steps → name.length < bound := by
    intro steps
    induction steps with
    | nil => exact ⟨0, fun name hmem => absurd hmem List.not_mem_nil⟩
    | cons step rest ih =>
        obtain ⟨bound, hbound⟩ := ih
        refine ⟨bound + (step.render "").length + 1, fun name hmem => ?_⟩
        rcases List.mem_cons.mp hmem with rfl | hmem
        · simp only [Segment.render]
          omega
        · have := hbound name hmem
          omega
  obtain ⟨bound, hbound⟩ := hsteps paths.flatten
  refine ⟨String.ofList (List.replicate bound '#'), fun p hp name hmem => ?_⟩
  rw [String.length_ofList, List.length_replicate]
  exact hbound name (List.mem_flatten.mpr ⟨p, hp, hmem⟩)

end Path

/-! ## Places of a match -/

namespace Shape

/-- The match goes on to the parts of the value, and has no mismatch of its own to report. -/
def goesInto : Shape → Value → Bool
  | .sequence _, .array _ => true
  | .record _, .map _ => true
  | .literal (.array (_ :: _)), .array _ => true
  | .literal (.map _), .map _ => true
  | _, _ => false

/-- A match of the shape and the value may report a mismatch at the path. -/
inductive Reports : Shape → Value → Path → Prop
  | here {shape : Shape} {v : Value} : shape.goesInto v = false → Reports shape v []
  | item {item : Shape} {parts : List Value} {position : Nat} {part : Value} {path : Path} :
      parts[position]? = some part → Reports item part path →
      Reports (.sequence item) (.array parts) (.index position :: path)
  /-- A key that is not declared, or a field that is absent. -/
  | key {fields : List (String × Shape)} {entries : List (Key × Value)} {name : String} :
      (name ∈ Entries.keys (Value.byName entries) → Entries.lookup? name fields = none) →
      Reports (.record fields) (.map entries) [.key name]
  | field {fields : List (String × Shape)} {entries : List (Key × Value)} {name : String}
      {field : Shape} {part : Value} {path : Path} :
      (name, part) ∈ Value.byName entries → Entries.lookup? name fields = some field →
      Reports field part path → Reports (.record fields) (.map entries) (.key name :: path)
  | arrayTemplate {item : Value} {rest : List Value} {v : Value} {path : Path} :
      Reports (.sequence (.literal item)) v path → Reports (.literal (.array (item :: rest))) v path
  | mapTemplate {entries : List (Key × Value)} {v : Value} {path : Path} :
      Reports (.record (Value.templateFields entries)) v path →
      Reports (.literal (.map entries)) v path

variable {shape : Shape} {v other : Value} {p q : Path}

lemma Reports.of_sequence {item : Shape} (h : Reports (.sequence item) v p) :
    p = [] ∨ ∃ position part rest, p = .index position :: rest ∧ Reports item part rest := by
  cases h with
  | here => exact .inl rfl
  | item _ h => exact .inr ⟨_, _, _, rfl, h⟩

lemma Reports.of_record {fields : List (String × Shape)} (h : Reports (.record fields) v p) :
    p = [] ∨ ∃ name rest, p = .key name :: rest ∧ (rest = [] ∨
      ∃ field part, Entries.lookup? name fields = some field ∧ Reports field part rest) := by
  cases h with
  | here => exact .inl rfl
  | key _ => exact .inr ⟨_, _, rfl, .inl rfl⟩
  | field _ hfield h => exact .inr ⟨_, _, rfl, .inr ⟨_, _, hfield, h⟩⟩

/-- **For one shape, the names of places tell the places apart**, whatever the values are that stand
there. -/
theorem Reports.toldApart (mark : String) (hp : Reports shape v p) (hq : Reports shape other q) :
    Path.ToldApart mark p q := by
  induction hp generalizing other q with
  | here => exact Path.toldApart_nil_left
  | item _ _ ih =>
      rcases hq.of_sequence with rfl | ⟨position, part, rest, rfl, hrest⟩
      · exact Path.toldApart_nil_right
      · refine Path.toldApart_cons (fun hname => ?_) fun _ => ih hrest
        rw [Segment.render_index_injective mark hname]
  | key _ =>
      rcases hq.of_record with rfl | ⟨name, rest, rfl, -⟩
      · exact Path.toldApart_nil_right
      · exact Path.toldApart_cons (congrArg Segment.key ·) fun _ => Path.toldApart_nil_left
  | field _ hfield _ ih =>
      rcases hq.of_record with rfl | ⟨name, rest, rfl, hrest⟩
      · exact Path.toldApart_nil_right
      · refine Path.toldApart_cons (congrArg Segment.key ·) fun hname => ?_
        cases hname
        rcases hrest with rfl | ⟨field, part, hsame, hrest⟩
        · exact Path.toldApart_nil_right
        · cases hfield.symm.trans hsame
          exact ih hrest
  | arrayTemplate _ ih =>
      cases hq with
      | here => exact Path.toldApart_nil_right
      | arrayTemplate hq => exact ih hq
  | mapTemplate _ ih =>
      cases hq with
      | here => exact Path.toldApart_nil_right
      | mapTemplate hq => exact ih hq

end Shape

/-! ## What a walk finds, it finds at such a place -/

namespace Walk

variable {entry : Path × Mismatch}

lemma mem_found_under {step : Segment} {w : Walk} (h : entry ∈ (w.under step).found) :
    ∃ inner ∈ w.found, entry.1 = step :: inner.1 := by
  obtain ⟨inner, hinner, rfl⟩ := List.mem_map.mp h
  exact ⟨inner, hinner, rfl⟩

lemma mem_found_andThen {first second : Walk} (h : entry ∈ (first.andThen second).found) :
    entry ∈ first.found ∨ entry ∈ second.found := by
  cases hfirst : first.ending with
  | error stop => exact .inl (by rwa [andThen_of_error hfirst] at h)
  | ok verdict =>
      rw [andThen_of_ok hfirst] at h
      exact List.mem_append.mp h

/-- A row of walks finds nothing that none of them finds, also if it is stopped. -/
lemma mem_found_all {walks : List Walk} (h : entry ∈ (all walks).found) :
    ∃ w ∈ walks, entry ∈ w.found := by
  induction walks with
  | nil => exact absurd h List.not_mem_nil
  | cons w rest ih =>
      rcases mem_found_andThen h with h | h
      · exact ⟨w, List.mem_cons_self, h⟩
      · obtain ⟨other, hother, hfound⟩ := ih h
        exact ⟨other, List.mem_cons_of_mem w hother, hfound⟩

lemma eq_nil_of_mem_found_miss {m : Mismatch} (h : entry ∈ (miss m).found) : entry.1 = [] := by
  cases List.mem_singleton.mp h
  rfl

lemma eq_nil_of_mem_found_ite {c : Prop} [Decidable c] {m : Mismatch}
    (h : entry ∈ (if c then pass else miss m).found) : entry.1 = [] := by
  split_ifs at h
  · exact absurd h List.not_mem_nil
  · exact eq_nil_of_mem_found_miss h

lemma eq_nil_of_mem_found_anyOf {rejection : Mismatch} {walks : List Walk}
    (h : entry ∈ (anyOf rejection walks).found) : entry.1 = [] := by
  rw [anyOf] at h
  cases htried : tried walks with
  | error violation =>
      rw [htried] at h
      exact absurd h List.not_mem_nil
  | ok verdict =>
      rw [htried] at h
      cases verdict with
      | true => exact absurd h List.not_mem_nil
      | false => exact eq_nil_of_mem_found_miss h

lemma eq_nil_of_mem_found_pattern {p : Pattern} {v : Value} (h : entry ∈ (pattern p v).found) :
    entry.1 = [] := by
  rw [pattern] at h
  cases htext : v.text? with
  | none =>
      rw [htext] at h
      exact absurd h List.not_mem_nil
  | some text =>
      rw [htext] at h
      exact eq_nil_of_mem_found_ite h

lemma mem_found_sequence {item : Value → Walk} {v : Value} (h : entry ∈ (sequence item v).found) :
    ((∀ parts, v ≠ .array parts) ∧ entry.1 = []) ∨
      ∃ (parts : List Value) (position : Nat) (part : Value),
        v = .array parts ∧ parts[position]? = some part ∧
        ∃ inner ∈ (item part).found, entry.1 = .index position :: inner.1 := by
  cases v with
  | array parts =>
      obtain ⟨w, hw, hfound⟩ := mem_found_all h
      obtain ⟨⟨part, position⟩, hpart, rfl⟩ := List.mem_map.mp hw
      exact .inr ⟨parts, position, part, rfl, List.mem_zipIdx_iff_getElem?.mp hpart,
        mem_found_under hfound⟩
  | _ => exact .inl ⟨fun _ => Value.noConfusion, eq_nil_of_mem_found_miss h⟩

lemma mem_found_expectedKey {isDeclared : Bool} {key : String}
    (h : entry ∈ (expectedKey isDeclared key).found) :
    isDeclared = false ∧ entry.1 = [.key key] := by
  cases isDeclared with
  | true => exact absurd h List.not_mem_nil
  | false => exact ⟨rfl, by rw [List.mem_singleton.mp h]⟩

lemma mem_found_presentField {isRequired isPresent : Bool} {name : String}
    (h : entry ∈ (presentField isRequired isPresent name).found) :
    isPresent = false ∧ entry.1 = [.key name] := by
  rw [presentField] at h
  split_ifs at h with habsent
  · exact ⟨by simpa using (Bool.and_eq_true_iff.mp habsent).2, by rw [List.mem_singleton.mp h]⟩
  · exact absurd h List.not_mem_nil

lemma mem_found_fieldValue {part : Option (Value → Walk)} {key : String} {v : Value}
    (h : entry ∈ (fieldValue part key v).found) :
    ∃ walk, part = some walk ∧ ∃ inner ∈ (walk v).found, entry.1 = .key key :: inner.1 := by
  cases part with
  | none => exact absurd h List.not_mem_nil
  | some walk => exact ⟨walk, rfl, mem_found_under h⟩

/-- What the walk of a map finds is an undeclared key, an absent field, or in the value of a
declared field, or there is no map. -/
lemma mem_found_record {declared : Matching.Declarations} {field : String → Option (Value → Walk)}
    {v : Value} (h : entry ∈ (record declared field v).found) :
    ((∀ entries, v ≠ .map entries) ∧ entry.1 = []) ∨
      ∃ (entries : List (Key × Value)) (name : String), v = .map entries ∧
        ((entry.1 = [.key name] ∧
            (name ∈ Entries.keys (Value.byName entries) → field name = none)) ∨
          ∃ (part : Value) (walk : Value → Walk), (name, part) ∈ Value.byName entries ∧
            field name = some walk ∧
              ∃ inner ∈ (walk part).found, entry.1 = .key name :: inner.1) := by
  cases v with
  | map entries =>
      right
      obtain ⟨w, hw, hfound⟩ := mem_found_all h
      rw [List.mem_append, List.mem_append] at hw
      rcases hw with (hw | hw) | hw
      · obtain ⟨⟨name, part⟩, -, rfl⟩ := List.mem_map.mp hw
        obtain ⟨hdeclared, hplace⟩ := mem_found_expectedKey hfound
        exact ⟨entries, name, rfl, .inl ⟨hplace, fun _ => by simpa using hdeclared⟩⟩
      · obtain ⟨⟨name, isRequired⟩, -, rfl⟩ := List.mem_map.mp hw
        obtain ⟨hpresent, hplace⟩ := mem_found_presentField hfound
        have habsent : name ∉ Entries.keys (Value.byName entries) := by
          simpa [Entries.keys] using hpresent
        exact ⟨entries, name, rfl, .inl ⟨hplace, fun hmem => absurd hmem habsent⟩⟩
      · obtain ⟨⟨name, part⟩, hpart, rfl⟩ := List.mem_map.mp hw
        obtain ⟨walk, hwalk, hinner⟩ := mem_found_fieldValue hfound
        exact ⟨entries, name, rfl, .inr ⟨part, walk, hpart, hwalk, hinner⟩⟩
  | _ => exact .inl ⟨fun _ => Value.noConfusion, eq_nil_of_mem_found_miss h⟩

end Walk

namespace Shape

/-- **What a walk finds, it finds at a place where the match may report.** -/
theorem reports_of_mem_found {shape : Shape} {v : Value} {entry : Path × Mismatch}
    (h : entry ∈ (shape.walk v).found) : shape.Reports v entry.1 := by
  induction shape generalizing v entry with
  | exact kind =>
      rw [Walk.eq_nil_of_mem_found_ite h]
      exact .here rfl
  | sequence item ih =>
      rw [walk_sequence] at h
      rcases Walk.mem_found_sequence h with
        ⟨hother, hplace⟩ | ⟨parts, position, part, rfl, hpart, inner, hinner, hplace⟩
      · rw [hplace]
        refine .here ?_
        cases v with
        | array parts => exact absurd rfl (hother parts)
        | _ => rfl
      · rw [hplace]
        exact .item hpart (ih hinner)
  | record fields ih =>
      rw [walk_record] at h
      rcases Walk.mem_found_record h with ⟨hother, hplace⟩ | ⟨entries, name, rfl, hcases⟩
      · rw [hplace]
        refine .here ?_
        cases v with
        | map entries => exact absurd rfl (hother entries)
        | _ => rfl
      · rcases hcases with ⟨hplace, hdeclared⟩ | ⟨part, walk, hpart, hwalk, inner, hinner, hplace⟩
        · rw [hplace]
          exact .key fun hmem => by simpa using hdeclared hmem
        · obtain ⟨field, hfield, rfl⟩ := Option.map_eq_some_iff.mp hwalk
          rw [hplace]
          exact .field hpart hfield (ih _ (Entries.mem_of_lookup? hfield) hinner)
  | union alternatives ih =>
      rw [walk_union] at h
      rw [Walk.eq_nil_of_mem_found_anyOf h]
      exact .here rfl
  | optional inner ih =>
      rw [walk_optional] at h
      rw [Walk.eq_nil_of_mem_found_anyOf h]
      exact .here rfl
  | any => exact absurd h List.not_mem_nil
  | nothing =>
      rw [Walk.eq_nil_of_mem_found_miss h]
      exact .here rfl
  | pattern p =>
      rw [Walk.eq_nil_of_mem_found_pattern h]
      exact .here rfl
  | scalar expected hscalar =>
      rw [walk_scalar hscalar] at h
      rw [Walk.eq_nil_of_mem_found_ite h]
      refine .here ?_
      cases expected with
      | array items => exact Bool.noConfusion hscalar
      | map entries => exact Bool.noConfusion hscalar
      | _ => rfl
  | emptyTemplate => exact absurd h List.not_mem_nil
  | arrayTemplate item rest ih => exact .arrayTemplate (ih h)
  | mapTemplate entries ih =>
      rw [walk_mapTemplate] at h
      exact .mapTemplate (ih h)

end Shape

/-! ## What a match records -/

/-- The messages of a place, in order. -/
def Findings.messagesAt (found : Findings) (place : Path) : List String :=
  (found.filter fun entry => entry.1 = place).map (·.2.message)

lemma Findings.mem_messagesAt {found : Findings} {entry : Path × Mismatch} (h : entry ∈ found) :
    entry.2.message ∈ found.messagesAt entry.1 :=
  List.mem_map.mpr ⟨entry, List.mem_filter.mpr ⟨h, decide_eq_true rfl⟩, rfl⟩

lemma Findings.count_places (found : Findings) (place : Path) :
    (found.map (·.1)).count place = (found.messagesAt place).length := by
  rw [messagesAt, List.length_map, List.count, List.countP_map, List.countP_eq_length_filter]
  simp only [Function.comp_def, beq_eq_decide]

/-- If the mark tells the places apart, a report has the messages of each place. -/
lemma Findings.messagesAt_eq {found : Findings} {settings : Settings} {place : Path}
    (h : ∀ entry ∈ found, entry.1.render settings.indexMark = place.render settings.indexMark →
      entry.1 = place) :
    ((Report.new settings).addAll ((Session.new settings).logOf found)).messagesAt place =
      found.messagesAt place := by
  have hnew : (Report.new settings).messagesAt place = [] := rfl
  have hmark : (Report.new settings).indexMark = settings.indexMark := rfl
  have hroot : (Session.new settings).path = [] := rfl
  rw [Report.messagesAt_addAll, hnew, hmark, List.nil_append, Session.logOf, List.filter_map,
    List.map_map, hroot, messagesAt]
  refine congrArg _ (List.filter_congr fun entry hentry => ?_)
  simp only [Function.comp_apply, List.nil_append, decide_eq_decide]
  exact ⟨h entry hentry, fun hplace => hplace ▸ rfl⟩

namespace Shape

/-- What a match of the shape and the value records: in every session, whatever its path, its report
and its marks are, these mismatches are added below the current path, in this order. -/
def Logs (shape : Shape) (v : Value) (log : Findings) : Prop :=
  ∀ s : Session, (s.examine shape v).1.report = s.report.addAll (s.logOf log)

variable {shape : Shape} {v : Value} {log : Findings}

lemma logs_walk (shape : Shape) (v : Value) : shape.Logs v (shape.walk v).found := by
  intro s
  rw [Session.examine_eq, Walk.replay]
  cases (shape.walk v).ending <;> rfl

/-- At every place, all that a match records is the same. -/
theorem Logs.messagesAt_eq (h : shape.Logs v log) {other : Findings} (hother : shape.Logs v other)
    (place : Path) : log.messagesAt place = other.messagesAt place := by
  -- A session whose mark is longer than all keys sees the places themselves.
  obtain ⟨mark, hmark⟩ :=
    Path.exists_long_mark (place :: (log.map (·.1) ++ other.map (·.1)))
  let settings : Settings := { indexMark := mark }
  have hplace := hmark place List.mem_cons_self
  have hshort : ∀ found : Findings, (∀ entry ∈ found, ∀ name, Segment.key name ∈ entry.1 →
      name.length < mark.length) → ∀ entry ∈ found,
      entry.1.render settings.indexMark = place.render settings.indexMark → entry.1 = place :=
    fun found hfound entry hentry => Path.eq_of_render_eq_of_short (hfound entry hentry) hplace
  have hlog := hshort log fun entry hentry => hmark entry.1 (List.mem_cons_of_mem _
    (List.mem_append_left _ (List.mem_map_of_mem hentry)))
  have hlast := hshort other fun entry hentry => hmark entry.1 (List.mem_cons_of_mem _
    (List.mem_append_right _ (List.mem_map_of_mem hentry)))
  have hsame := (h (.new settings)).symm.trans (hother (.new settings))
  rw [← Findings.messagesAt_eq hlog, ← Findings.messagesAt_eq hlast]
  exact congrArg (·.messagesAt place) hsame

/-- All that a match records is at the same places, as often at each. -/
lemma Logs.places_perm (h : shape.Logs v log) {other : Findings} (hother : shape.Logs v other) :
    (log.map (·.1)).Perm (other.map (·.1)) := by
  refine List.perm_iff_count.mpr fun place => ?_
  rw [Findings.count_places, Findings.count_places, h.messagesAt_eq hother]

/-- Whatever a match records, it records at a place where it may report. -/
lemma Logs.reports (h : shape.Logs v log) {entry : Path × Mismatch} (hentry : entry ∈ log) :
    shape.Reports v entry.1 := by
  have hmem := Findings.mem_messagesAt hentry
  rw [h.messagesAt_eq (logs_walk shape v)] at hmem
  obtain ⟨other, hother, -⟩ := List.mem_map.mp hmem
  obtain ⟨hfound, hplace⟩ := List.mem_filter.mp hother
  rw [← of_decide_eq_true hplace]
  exact reports_of_mem_found hfound

lemma Logs.report_eq (h : shape.Logs v log) {settings : Settings} {outcome : Outcome}
    (houtcome : shape.validate v settings = .ok outcome) :
    outcome.report = (Report.new settings).addAll ((Session.new settings).logOf log) := by
  obtain ⟨-, rfl⟩ := (shape.validate_eq_ok_iff v settings outcome).mp houtcome
  exact (logs_walk shape v (.new settings)).symm.trans (h (.new settings))

/-- As far as the names of two recorded places agree, their steps do. -/
lemma Logs.toldApart (h : shape.Logs v log) (mark : String) {entry other : Path × Mismatch}
    (hentry : entry ∈ log) (hother : other ∈ log) : Path.ToldApart mark entry.1 other.1 :=
  (h.reports hentry).toldApart mark (h.reports hother)

lemma Logs.eq_of_render_eq (h : shape.Logs v log) {mark : String} {entry other : Path × Mismatch}
    (hentry : entry ∈ log) (hother : other ∈ log)
    (hsame : entry.1.render mark = other.1.render mark) : entry.1 = other.1 :=
  h.toldApart mark hentry hother _ _ List.prefix_rfl List.prefix_rfl hsame

/-- The report of a validation has at each place what was recorded there. -/
lemma Logs.messagesAt_report (h : shape.Logs v log) {settings : Settings} {outcome : Outcome}
    (houtcome : shape.validate v settings = .ok outcome) {entry : Path × Mismatch}
    (hentry : entry ∈ log) : outcome.report.messagesAt entry.1 = log.messagesAt entry.1 := by
  rw [h.report_eq houtcome]
  exact Findings.messagesAt_eq fun other hother => h.eq_of_render_eq hother hentry

/-- **A match never puts two places into one node of a report.**  There is a list of what a match
records; and for every such list and all settings, two places of the list with the same names are
the same, and so are the places on the way to them, so that a position never shares a node with a
key that looks like it.  Hence the report has at each place what was recorded there. -/
theorem logs_toldApart (shape : Shape) (v : Value) :
    (∃ log, shape.Logs v log) ∧ ∀ log, shape.Logs v log → ∀ settings : Settings,
      (∀ entry ∈ log, ∀ other ∈ log,
        entry.1.render settings.indexMark = other.1.render settings.indexMark →
          entry.1 = other.1) ∧
      (∀ entry ∈ log, ∀ other ∈ log, Path.ToldApart settings.indexMark entry.1 other.1) ∧
      ∀ outcome, shape.validate v settings = .ok outcome → ∀ entry ∈ log,
        outcome.report.messagesAt entry.1 = log.messagesAt entry.1 := by
  refine ⟨⟨_, shape.logs_walk v⟩, fun log hlog settings => ⟨?_, ?_, ?_⟩⟩
  · exact fun entry hentry other hother => hlog.eq_of_render_eq hentry hother
  · exact fun entry hentry other hother => hlog.toldApart settings.indexMark hentry hother
  · exact fun outcome houtcome entry hentry => hlog.messagesAt_report houtcome hentry

/-- Two values under one name, one of them an array, beside a key that looks like a position. -/
theorem logs_toldApart_of_run :
    let shape := Shape.record [("1", .sequence (.exact .text))]
    let v := Value.map [(.number 1, .array [.null]), (.text "1", .null), (.text "idx_0", .null)]
    let log : Findings := [([.key "idx_0"], .undeclaredKey "idx_0"),
      ([.key "1", .index 0], .wrongKind Value.null.inspect Kind.text.name),
      ([.key "1"], .wrongKind Value.null.inspect Kind.array.name)]
    ∃ outcome, shape.Logs v log ∧ shape.validate v .usual = .ok outcome ∧
      ∀ entry ∈ log, outcome.report.messagesAt entry.1 = log.messagesAt entry.1 := by
  intro shape v log
  have hlog : shape.Logs v log := shape.logs_walk v
  exact ⟨_, hlog, rfl, ((logs_toldApart shape v).2 log hlog .usual).2.2 _ rfl⟩

end Shape

end DataShape
