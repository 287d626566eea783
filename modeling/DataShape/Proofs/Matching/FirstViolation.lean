import DataShape.Proofs.Matching.Routes

/-!
# Where a violation comes from

A match is stopped by the first misuse on its way: walks in a row are stopped by the first of them
that is stopped, and so are alternatives, which are all tried.  The path of the violation is that of
the route to the misuse.  The session is left at the same place, unless there are alternatives on
the route: these are tried in forks, so the session itself stays where the first of them begin.

* `Walk.FirstStopped` — the walk that stops others.
* `Shape.exists_stopsAt` — the walk of a shape and a value is stopped by the first misuse.
* `Session.examine_violation` — **a violation is about the first misuse below the current path.**
-/

namespace DataShape

namespace Walk

/-! ## The walk that stops -/

/-- The walk at the position is stopped, and none before it is. -/
structure FirstStopped (walks : List Walk) (position : Nat) (stop : Stop) : Prop where
  stopped : ∃ w, walks[position]? = some w ∧ w.ending = .error stop
  before : ∀ earlier < position, ∀ w, walks[earlier]? = some w → ¬ w.Stopped

variable {w : Walk} {walks : List Walk} {stop : Stop}

lemma firstStopped_zero (h : w.ending = .error stop) : FirstStopped (w :: walks) 0 stop where
  stopped := ⟨w, rfl, h⟩
  before _ hlt := absurd hlt (Nat.not_lt_zero _)

lemma FirstStopped.succ {position : Nat} (h : FirstStopped walks position stop)
    (hw : ¬ w.Stopped) : FirstStopped (w :: walks) (position + 1) stop where
  stopped := h.stopped
  before earlier hlt other hother := by
    cases earlier with
    | zero => exact Option.some.inj hother ▸ hw
    | succ earlier => exact h.before earlier (Nat.lt_of_succ_lt_succ hlt) other hother

lemma not_stopped_of_ok {verdict : Bool} (h : w.ending = .ok verdict) : ¬ w.Stopped := by
  rintro ⟨stop, hstop⟩
  cases h.symm.trans hstop

/-- A row of walks is stopped by the first of them that is stopped. -/
lemma exists_firstStopped_all (h : (all walks).ending = .error stop) :
    ∃ position, FirstStopped walks position stop := by
  induction walks with
  | nil => cases h
  | cons w rest ih =>
      rw [all_cons] at h
      cases hw : w.ending with
      | error first =>
          rw [andThen_of_error hw, hw, Except.error.injEq] at h
          exact ⟨0, firstStopped_zero (h ▸ hw)⟩
      | ok verdict =>
          rw [andThen_of_ok hw] at h
          cases hrest : (all rest).ending with
          | ok others => simp [hrest, Except.map] at h
          | error first =>
              simp only [hrest, Except.map, Except.error.injEq] at h
              obtain ⟨position, hposition⟩ := ih (h ▸ hrest)
              exact ⟨position + 1, hposition.succ (not_stopped_of_ok hw)⟩

/-- Alternatives are stopped by the first of them that is stopped, even if one before it fits. -/
lemma exists_firstStopped_tried {violation : Violation} (h : tried walks = .error violation) :
    ∃ position stop, FirstStopped walks position stop ∧ stop.violation = violation := by
  induction walks with
  | nil => cases h
  | cons w rest ih =>
      rw [tried] at h
      cases hw : w.ending with
      | error first =>
          simp only [hw, Except.error.injEq] at h
          exact ⟨0, first, firstStopped_zero hw, h⟩
      | ok verdict =>
          cases hrest : tried rest with
          | ok others => simp [hw, hrest, Except.map] at h
          | error first =>
              simp only [hw, hrest, Except.map, Except.error.injEq] at h
              obtain ⟨position, stop, hposition, hstop⟩ := ih (h ▸ hrest)
              exact ⟨position + 1, stop, hposition.succ (not_stopped_of_ok hw), hstop⟩

/-! ## Rules that stop -/

lemma ending_under_eq_error {step : Segment} (h : (w.under step).ending = .error stop) :
    ∃ inner, w.ending = .error inner ∧ stop = inner.under step := by
  cases hw : w.ending with
  | ok verdict => simp [under, hw, Except.mapError] at h
  | error inner =>
      simp only [under, hw, Except.mapError, Except.error.injEq] at h
      exact ⟨inner, rfl, h.symm⟩

lemma ending_andThen_of_not_stopped {first second : Walk} (hfirst : ¬ first.Stopped)
    (h : (first.andThen second).ending = .error stop) : second.ending = .error stop := by
  cases hending : first.ending with
  | error inner => exact absurd ⟨inner, hending⟩ hfirst
  | ok verdict =>
      rw [andThen_of_ok hending] at h
      cases hsecond : second.ending with
      | ok other => simp [hsecond, Except.map] at h
      | error inner => simpa [hsecond, Except.map] using h

lemma ending_sequence_eq_error {item : Value → Walk} {v : Value}
    (h : (sequence item v).ending = .error stop) :
    ∃ parts position part inner, v = .array parts ∧ parts[position]? = some part ∧
      (item part).ending = .error inner ∧ stop = inner.under (.index position) ∧
      ∀ earlier < position, ∀ other, parts[earlier]? = some other → ¬ (item other).Stopped := by
  cases v with
  | array parts =>
      obtain ⟨position, ⟨w, hw, hending⟩, hbefore⟩ := exists_firstStopped_all h
      have hitems : ∀ position : Nat, (items item parts)[position]? =
          parts[position]?.map fun part => (item part).under (.index position) := by
        simp [items, List.getElem?_zipIdx, Function.comp_def]
      rw [hitems] at hw
      obtain ⟨part, hpart, rfl⟩ := Option.map_eq_some_iff.mp hw
      obtain ⟨inner, hinner, rfl⟩ := ending_under_eq_error hending
      refine ⟨parts, position, part, inner, rfl, hpart, hinner, rfl, fun earlier hlt other h' => ?_⟩
      rw [← stopped_under (.index earlier)]
      exact hbefore earlier hlt _ (by rw [hitems, h', Option.map_some])
  | _ => cases h

lemma ending_fieldValue_eq_error {part : Option (Value → Walk)} {key : String} {v : Value}
    (h : (fieldValue part key v).ending = .error stop) :
    ∃ walk inner, part = some walk ∧ (walk v).ending = .error inner ∧
      stop = inner.under (.key key) := by
  cases part with
  | none => cases h
  | some walk =>
      obtain ⟨inner, hinner, hstop⟩ := ending_under_eq_error h
      exact ⟨walk, inner, rfl, hinner, hstop⟩

/-- The first two passes over a map, which look at its keys only, never stop. -/
lemma not_stopped_keys (declared : Matching.Declarations) (field : String → Option (Value → Walk))
    (present : Entries String Value) :
    ¬ (all (expectedKeys field present ++ presentFields declared present)).Stopped := by
  rw [stopped_all]
  rintro ⟨w, hw, hstopped⟩
  rcases List.mem_append.mp hw with hw | hw
  · obtain ⟨entry, -, rfl⟩ := List.mem_map.mp hw
    exact not_stopped_expectedKey _ _ hstopped
  · obtain ⟨entry, -, rfl⟩ := List.mem_map.mp hw
    exact not_stopped_presentField _ _ _ hstopped

lemma ending_record_eq_error {declared : Matching.Declarations}
    {field : String → Option (Value → Walk)} {v : Value}
    (h : (record declared field v).ending = .error stop) :
    ∃ (entries : List (Key × Value)) (position : Nat) (entry : Key × Value) (walk : Value → Walk)
      (inner : Stop), v = .map entries ∧ entries[position]? = some entry ∧
      field entry.1.normalized = some walk ∧ (walk entry.2).ending = .error inner ∧
      stop = inner.under (.key entry.1.normalized) ∧
      ∀ earlier < position, ∀ other : Key × Value, entries[earlier]? = some other →
        ∀ walk, field other.1.normalized = some walk → ¬ (walk other.2).Stopped := by
  cases v with
  | map entries =>
      rw [record, all_append] at h
      have hrest := ending_andThen_of_not_stopped (not_stopped_keys declared field _) h
      obtain ⟨position, ⟨w, hw, hending⟩, hbefore⟩ := exists_firstStopped_all hrest
      have hvalues : ∀ position : Nat, (fieldValues field (Value.byName entries))[position]? =
          entries[position]?.map fun entry : Key × Value =>
            fieldValue (field entry.1.normalized) entry.1.normalized entry.2 := by
        simp [fieldValues, Value.byName, Function.comp_def]
      rw [hvalues] at hw
      obtain ⟨entry, hentry, rfl⟩ := Option.map_eq_some_iff.mp hw
      obtain ⟨walk, inner, hwalk, hinner, rfl⟩ := ending_fieldValue_eq_error hending
      refine ⟨entries, position, entry, walk, inner, rfl, hentry, hwalk, hinner, rfl,
        fun earlier hlt other hother walk hwalk hstopped => ?_⟩
      refine hbefore earlier hlt _ (by rw [hvalues, hother, Option.map_some]) ?_
      rw [stopped_fieldValue]
      exact ⟨walk, hwalk, hstopped⟩
  | _ => cases h

/-- Alternatives leave the walk where they begin. -/
lemma ending_anyOf_eq_error {rejection : Mismatch}
    (h : (anyOf rejection walks).ending = .error stop) :
    ∃ position inner, FirstStopped walks position inner ∧ stop = ⟨inner.violation, []⟩ := by
  rw [anyOf] at h
  cases htried : tried walks with
  | ok verdict => cases verdict <;> simp [htried, pass, miss] at h
  | error violation =>
      obtain ⟨position, inner, hfirst, rfl⟩ := exists_firstStopped_tried htried
      simp only [htried, Except.error.injEq] at h
      exact ⟨position, inner, hfirst, h.symm⟩

end Walk

/-! ## Shapes that stop -/

namespace Shape

/-- The stop is that of the first misuse of the shape. -/
structure StopsAt (shape : Shape) (v : Value) (stop : Walk.Stop) (route : Route) (place : Shape)
    (part : Value) : Prop where
  firstMisuse : FirstMisuse shape v route place part stop.violation.cause
  path_eq : stop.violation.path = route.path
  left_eq : stop.left = route.toChoice.path

variable {shape place : Shape} {v part : Value} {stop inner : Walk.Stop} {route : Route}

lemma stopsAt_here {cause : Violation.Cause} (h : shape.Misused v cause) :
    StopsAt shape v ⟨⟨cause, []⟩, []⟩ [] shape v := ⟨.here h, rfl, rfl⟩

/-- Alternatives are stopped by the first misuse in one of them. -/
lemma exists_stopsAt_union {alternatives : List Shape}
    (ih : ∀ s ∈ alternatives, ∀ {stop}, (s.walk v).ending = .error stop →
      ∃ route place part, StopsAt s v stop route place part)
    (h : (walk (.union alternatives) v).ending = .error stop) :
    ∃ route place part, StopsAt (.union alternatives) v stop route place part := by
  rw [walk_union] at h
  obtain ⟨position, inner, ⟨⟨w, hw, hending⟩, hbefore⟩, rfl⟩ := Walk.ending_anyOf_eq_error h
  rw [List.getElem?_map, Option.map_eq_some_iff] at hw
  obtain ⟨s, hs, rfl⟩ := hw
  obtain ⟨route, place, part, hstops⟩ := ih s (List.mem_of_getElem? hs) hending
  refine ⟨_, place, part, hstops.firstMisuse.alternative hs fun earlier hlt other hother => ?_,
    hstops.path_eq, rfl⟩
  rw [← stopped_walk_iff]
  exact hbefore earlier hlt _ (by rw [List.getElem?_map, hother, Option.map_some])

/-- **A walk is stopped by the first misuse**, and left there, or where the first alternatives on
the way begin. -/
theorem exists_stopsAt (h : (shape.walk v).ending = .error stop) :
    ∃ route place part, StopsAt shape v stop route place part := by
  induction shape generalizing v stop with
  | exact kind => exact absurd ⟨stop, h⟩ (Walk.not_stopped_exact kind v)
  | sequence item ih =>
      rw [walk_sequence] at h
      obtain ⟨parts, position, part, inner, rfl, hpart, hinner, rfl, hbefore⟩ :=
        Walk.ending_sequence_eq_error h
      obtain ⟨route, place, leaf, hstops⟩ := ih hinner
      refine ⟨.item position :: route, place, leaf, hstops.firstMisuse.item hpart ?_, ?_, ?_⟩
      · simpa only [stopped_walk_iff] using hbefore
      · exact congrArg (Segment.index position :: ·) hstops.path_eq
      · exact congrArg (Segment.index position :: ·) hstops.left_eq
  | record fields ih =>
      rw [walk_record] at h
      obtain ⟨entries, position, ⟨key, w⟩, walk, inner, rfl, hentry, hwalk, hinner, rfl, hbefore⟩ :=
        Walk.ending_record_eq_error h
      rw [Option.map_eq_some_iff] at hwalk
      obtain ⟨field, hfield, rfl⟩ := hwalk
      obtain ⟨route, place, leaf, hstops⟩ := ih _ (Entries.mem_of_lookup? hfield) hinner
      refine ⟨.entry position key.normalized :: route, place, leaf,
        hstops.firstMisuse.entry hentry hfield fun earlier hlt other hother s hs => ?_, ?_, ?_⟩
      · rw [← stopped_walk_iff]
        exact hbefore earlier hlt other hother _ (by rw [hs, Option.map_some])
      · exact congrArg (Segment.key key.normalized :: ·) hstops.path_eq
      · exact congrArg (Segment.key key.normalized :: ·) hstops.left_eq
  | union alternatives ih => exact exists_stopsAt_union (fun s hs _ hstop => ih s hs hstop) h
  | optional inner ih =>
      have hboth : ∀ s ∈ [inner, .exact .null], ∀ {stop}, (s.walk v).ending = .error stop →
          ∃ route place part, StopsAt s v stop route place part := by
        intro s hs stop hstop
        rcases List.mem_pair.mp hs with rfl | rfl
        · exact ih hstop
        · exact absurd ⟨stop, hstop⟩ (Walk.not_stopped_exact .null v)
      obtain ⟨route, place, part, hstops⟩ := exists_stopsAt_union hboth h
      exact ⟨route, place, part, hstops.firstMisuse.optional, hstops.path_eq, hstops.left_eq⟩
  | any => cases h
  | nothing => cases h
  | pattern p =>
      have hno := (Walk.stopped_pattern p v).mp ⟨stop, h⟩
      rw [walk_pattern, Walk.pattern] at h
      cases htext : v.text? with
      | none =>
          simp only [htext, Walk.stop, Except.error.injEq] at h
          exact ⟨[], _, v, h ▸ stopsAt_here (.pattern hno)⟩
      | some text =>
          simp only [htext] at h
          exact absurd ⟨stop, h⟩ (Walk.not_stopped_ite _ _)
  | scalar expected hscalar =>
      rw [walk_scalar hscalar] at h
      exact absurd ⟨stop, h⟩ (Walk.not_stopped_literal expected v)
  | emptyTemplate =>
      cases h
      exact ⟨[], _, v, stopsAt_here .emptyTemplate⟩
  | arrayTemplate item rest ih =>
      obtain ⟨route, place, part, hstops⟩ := ih h
      exact ⟨route, place, part, hstops.firstMisuse.arrayTemplate, hstops.path_eq, hstops.left_eq⟩
  | mapTemplate entries ih =>
      rw [walk_mapTemplate] at h
      obtain ⟨route, place, part, hstops⟩ := ih h
      exact ⟨route, place, part, hstops.firstMisuse.mapTemplate, hstops.path_eq, hstops.left_eq⟩

end Shape

/-! ## Sessions -/

namespace Session

/-- The result of a match depends on the session only through the current path. -/
lemma result_examine (s : Session) (shape : Shape) (v : Value) :
    (s.examine shape v).2 =
      (shape.walk v).ending.mapError fun stop => stop.violation.from s.path := by
  rw [examine_eq, Walk.replay]
  cases (shape.walk v).ending <;> rfl

lemma result_examine_eq_ok_iff (s : Session) (shape : Shape) (v : Value) (fits : Bool) :
    (s.examine shape v).2 = .ok fits ↔ (shape.walk v).ending = .ok fits := by
  rw [result_examine]
  cases (shape.walk v).ending <;> simp [Except.mapError]

lemma exists_result_examine_eq_ok_iff (s : Session) (shape : Shape) (v : Value) :
    (∃ fits, (s.examine shape v).2 = .ok fits) ↔ ¬ (shape.walk v).Stopped := by
  simp only [result_examine_eq_ok_iff, Walk.Stopped]
  cases (shape.walk v).ending <;> simp

lemma result_examine_eq_error_iff (s : Session) (shape : Shape) (v : Value)
    (violation : Violation) :
    (s.examine shape v).2 = .error violation ↔
      ∃ stop, (shape.walk v).ending = .error stop ∧ stop.violation.from s.path = violation := by
  rw [result_examine]
  cases (shape.walk v).ending <;> simp [Except.mapError]

end Session

/-- **A violation is about the first misuse below the current path.**  Its path is the current path
with that of a route behind it, which leads to a pattern that meets a value other than text, or to
an empty template, before every other misuse in depth-first order.  The session is left on the way
there, and right there if no alternatives are on the way; all messages that it had are still
there. -/
theorem Session.examine_violation {s : Session} {shape : Shape} {v : Value} {violation : Violation}
    (h : (s.examine shape v).2 = .error violation) :
    ∃ route place part,
      shape.Leads v route place part ∧ v.Leads route.path part ∧
      place.Misused part violation.cause ∧
      violation.path = s.path ++ route.path ∧
      (∀ other place part cause, shape.Leads v other place part →
        Shape.Misused place part cause → ¬ other.Before route) ∧
      s.path <+: (s.examine shape v).1.path ∧
      (s.examine shape v).1.path <+: violation.path ∧
      ((∀ turn ∈ route, turn.step?.isSome = true) →
        (s.examine shape v).1.path = violation.path) ∧
      (∀ path, s.report.messagesAt path <+: (s.examine shape v).1.report.messagesAt path) ∧
      s.report.toList.Sublist (s.examine shape v).1.report.toList := by
  rw [examine_eq, Walk.replay] at h ⊢
  cases hending : (shape.walk v).ending with
  | ok verdict => simp [hending] at h
  | error stop =>
      simp only [hending, Except.error.injEq] at h ⊢
      obtain ⟨route, place, part, ⟨hleads, hmisused, hfirst⟩, hpath, hleft⟩ :=
        Shape.exists_stopsAt hending
      have hviolation : violation.path = s.path ++ route.path := by rw [← h, ← hpath]; rfl
      refine ⟨route, place, part, hleads, hleads.value_leads, ?_, hviolation, hfirst,
        List.prefix_append _ _, ?_, fun hsteps => ?_, fun path => ?_,
        s.report.toList_sublist_addAll _⟩
      · rwa [← h]
      · rw [hviolation, hleft]
        exact (List.prefix_append_right_inj _).mpr route.path_toChoice_prefix
      · rw [hviolation, hleft, Route.toChoice_eq_self hsteps]
      · rw [collect, Report.messagesAt_addAll]
        exact List.prefix_append _ _

/-- An empty template inside an optional item, in the second of two fields, met in a session that is
under way: the session is left at the item, whose alternatives are tried in forks. -/
theorem Session.examine_violation_of_run :
    let s := (new .usual).push (.key "in")
    let shape := Shape.record [("a", .sequence (.optional (.sequence (.literal (.array []))))),
      ("b", .any)]
    let v := Value.map [(.text "b", .null), (.text "a", .array [.array [.null]])]
    let path : Path := [.key "in", .key "a", .index 0, .index 0]
    (s.examine shape v).2 = .error ⟨.emptyTemplate, path⟩ ∧
    (s.examine shape v).1.path = [.key "in", .key "a", .index 0] ∧
    (s.examine shape v).1.path <+: path ∧
    ∃ route place part, shape.Leads v route place part ∧ v.Leads route.path part ∧
      place.Misused part .emptyTemplate ∧ path = s.path ++ route.path := by
  intro s shape v path
  have hrun : (s.examine shape v).2 = .error ⟨.emptyTemplate, path⟩ := rfl
  obtain ⟨route, place, part, hleads, hvalue, hmisused, hpath, -, -, hleft, -⟩ :=
    examine_violation hrun
  exact ⟨hrun, rfl, hleft, route, place, part, hleads, hvalue, hmisused, hpath⟩

end DataShape
