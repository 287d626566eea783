import DataShape.Proofs.Matching.AddedFields

/-!
# A field that must be absent

A record rejects the keys that it does not declare, so it makes no difference to the verdict whether
a field is left undeclared or declared with the shape that no value has.  The two go different ways,
though: an undeclared key is met in the first pass over a map, a forbidden one in the last pass,
among the values of the other fields, one of which may stop the walk before it gets there.

What carries the proof is that a walk with a verdict may be taken out of turn.  It neither stops the
walks behind it nor changes which of them is the first to stop, and verdicts are put together in any
order.

* `Walk.ending_andThen_left_comm` — a walk with a verdict may be taken out of turn.
* `Walk.ending_forbidden` — a forbidden name ends the walk of a map like an undeclared one.
* `Shape.accepts_added_nothing` — **a forbidden field is as good as none.**
-/

namespace DataShape

namespace Walk

/-! ## Walks out of turn -/

lemma ending_andThen (first second : Walk) :
    (first.andThen second).ending =
      first.ending.bind fun verdict => second.ending.map (verdict && ·) := by
  rw [andThen]
  cases hfirst : first.ending with
  | error stop => simp [hfirst, Except.bind]
  | ok verdict => rfl

/-- How two walks in a row end depends on how each of them ends. -/
lemma ending_andThen_congr {first other second last : Walk} (hfirst : first.ending = other.ending)
    (hsecond : second.ending = last.ending) :
    (first.andThen second).ending = (other.andThen last).ending := by
  rw [ending_andThen, ending_andThen, hfirst, hsecond]

/-- **A walk with a verdict may be taken out of turn**, as far as the end is concerned. -/
lemma ending_andThen_left_comm {w : Walk} {verdict : Bool} (hw : w.ending = .ok verdict)
    (first second : Walk) :
    (first.andThen (w.andThen second)).ending = (w.andThen (first.andThen second)).ending := by
  simp only [ending_andThen, hw, Except.bind]
  cases first.ending with
  | error stop => rfl
  | ok one => cases second.ending <;> simp [Except.map, Bool.and_left_comm]

/-! ## Forbidden names -/

variable {field other : String → Option (Value → Walk)} {name : String}

/-- **A forbidden name ends the walk of a map like an undeclared one**, whatever comes between the
pass over the keys and the pass over the values. -/
lemma ending_forbidden (hforbidden : field name = some fun _ => miss .forbiddenKey)
    (hundeclared : other name = none) (hsame : ∀ key, key ≠ name → field key = other key)
    (present : Entries String Value) (between : Walk) :
    ((all (expectedKeys field present)).andThen
        (between.andThen (all (fieldValues field present)))).ending =
      ((all (expectedKeys other present)).andThen
        (between.andThen (all (fieldValues other present)))).ending := by
  induction present generalizing between with
  | nil => rfl
  | cons entry rest ih =>
      obtain ⟨key, v⟩ := entry
      rw [expectedKeys_cons, expectedKeys_cons, fieldValues_cons, fieldValues_cons, all_cons,
        all_cons, all_cons, all_cons, andThen_assoc, andThen_assoc]
      by_cases hkey : key = name
      · -- The entry is rejected in the last pass on the one side, and in the first on the other.
        rw [hkey, hforbidden, hundeclared]
        let late : Walk := (miss .forbiddenKey).under (.key name)
        let early : Walk := (miss (.undeclaredKey name)).under (.key name)
        have hlate : late.ending = .ok false := rfl
        calc (pass.andThen ((all (expectedKeys field rest)).andThen
              (between.andThen (late.andThen (all (fieldValues field rest)))))).ending
            = ((all (expectedKeys field rest)).andThen
                (late.andThen (between.andThen (all (fieldValues field rest))))).ending := by
              rw [pass_andThen]
              exact ending_andThen_congr rfl (ending_andThen_left_comm hlate _ _)
          _ = (late.andThen ((all (expectedKeys field rest)).andThen
                (between.andThen (all (fieldValues field rest))))).ending :=
              ending_andThen_left_comm hlate _ _
          _ = (early.andThen ((all (expectedKeys other rest)).andThen
                (between.andThen (pass.andThen (all (fieldValues other rest)))))).ending := by
              rw [pass_andThen]
              exact ending_andThen_congr rfl (ih between)
      · -- The walk of the value comes between the passes over the other entries.
        rw [hsame key hkey, ← andThen_assoc between, ← andThen_assoc between]
        exact ending_andThen_congr rfl (ih _)

end Walk

/-! ## A record with a forbidden field more -/

namespace Shape

/-- **A forbidden field is as good as none**, wherever it is declared: for every value, whether and
how often it has a key of that name, the record ends with the same verdict or the same violation as
the record that does not declare the field. -/
theorem accepts_added_nothing {before after : List (String × Shape)} {name : String}
    (hname : name ∉ Entries.keys (before ++ after)) (v : Value) (settings : Settings) :
    accepts (.record (before ++ (name, .nothing) :: after)) v settings =
      accepts (.record (before ++ after)) v settings := by
  have hforbidden : part (before ++ (name, .nothing) :: after) name =
      some fun _ => .miss .forbiddenKey := by
    rw [part, Entries.lookup?_insert_between hname, if_pos rfl]
    rfl
  have hundeclared : part (before ++ after) name = none := by
    rw [part, Entries.lookup?_eq_none hname, Option.map_none]
  have hsame : ∀ key, key ≠ name →
      part (before ++ (name, .nothing) :: after) key = part (before ++ after) key := by
    intro key hkey
    rw [part, Entries.lookup?_insert_between hname, if_neg hkey, part]
  suffices h : (walk (.record (before ++ (name, .nothing) :: after)) v).ending =
      (walk (.record (before ++ after)) v).ending by
    rw [accepts_eq, accepts_eq, h]
  rw [walk_record, walk_record]
  change (Walk.record (declarations _) (part _) v).ending =
    (Walk.record (declarations _) (part _) v).ending
  cases v with
  | map entries =>
      simp only [Walk.record, Walk.all_append, Walk.andThen_assoc,
        all_presentFields_added_field (s := .nothing) rfl]
      exact Walk.ending_forbidden hforbidden hundeclared hsame _ _
  | _ => rfl

/-- A forbidden field between one that takes anything and one that cannot be matched.  A map that
names it twice, by a flag and by a text, is rejected with the field and without; and if the map has
the key that cannot be matched, the match is stopped there, with the field and without. -/
theorem accepts_added_nothing_of_twice :
    let fields (forbidden : List (String × Shape)) : Shape :=
      .record ([("b", .any)] ++ forbidden ++ [("a", .literal (.array []))])
    let twice (more : List (Key × Value)) : Value :=
      .map ([(.flag true, .null), (.text "b", .null), (.text "true", .integer 1)] ++ more)
    "true" ∉ Entries.keys ([("b", Shape.any)] ++ [("a", .literal (.array []))]) ∧
      (fields [("true", .nothing)]).accepts (twice []) .usual =
        (fields []).accepts (twice []) .usual ∧
      (fields [("true", .nothing)]).accepts (twice [(.text "a", .null)]) .usual =
        (fields []).accepts (twice [(.text "a", .null)]) .usual ∧
      (fields []).accepts (twice []) .usual = .ok false ∧
      (fields []).accepts (twice [(.text "a", .null)]) .usual =
        .error ⟨.emptyTemplate, [.key "a"]⟩ := by
  intro fields twice
  have hname : "true" ∉ Entries.keys ([("b", Shape.any)] ++ [("a", .literal (.array []))]) := by
    decide
  exact ⟨hname, accepts_added_nothing hname _ _, accepts_added_nothing hname _ _, rfl, rfl⟩

end Shape

end DataShape
