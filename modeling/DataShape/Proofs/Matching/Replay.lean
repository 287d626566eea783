import DataShape.Proofs.Matching.Walk
import DataShape.Proofs.Report.Log

/-!
# A match replays its walk

The matcher pushes and pops steps of the session's path, records as it goes along, and tries
alternatives in forks.  All this comes to the same as walking the shape and the value without a
session, and then adding everything found under the path at which the match was begun.

* `Walk.replay` — what a walk makes of a session in which it is begun.
* `Matching.Replays` — a match that makes just that of every session.
* `Shape.check_replays` — **the match of a shape and a value replays their walk.**
-/

namespace DataShape

/-! ## Running a match -/

namespace Matching

variable {α β : Type}

/-- What a match makes of a session. -/
def on (m : Matching α) (s : Session) : Except Violation α × Session := m.run.run s

@[simp] lemma on_pure (a : α) (s : Session) : on (pure a) s = (.ok a, s) := rfl

@[simp] lemma on_modify (change : Session → Session) (s : Session) :
    on (modify change) s = (.ok (), change s) := rfl

@[simp] lemma on_get (s : Session) : on get s = (.ok s, s) := rfl

@[simp] lemma on_throw (violation : Violation) (s : Session) :
    on (throw violation : Matching α) s = (.error violation, s) := rfl

/-- A violation ends a match at once, and leaves the session as it is there. -/
lemma on_bind (m : Matching α) (next : α → Matching β) (s : Session) :
    on (m >>= next) s =
      match m.on s with
      | (.ok a, s) => (next a).on s
      | (.error violation, s) => (.error violation, s) := by
  simp only [on, ExceptT.run_bind, StateT.run_bind]
  rcases m.run.run s with ⟨_ | _, _⟩ <;> rfl

end Matching

/-! ## Replaying a walk -/

namespace Session

/-- Findings of a walk that was begun at the current path, as messages at their places. -/
def logOf (s : Session) (found : Findings) : List (Path × String) :=
  found.map fun entry => (s.path ++ entry.1, entry.2.message)

/-- Adds what a walk found that was begun at the current path. -/
def collect (s : Session) (found : Findings) : Session :=
  { s with report := s.report.addAll (s.logOf found) }

@[simp] lemma collect_nil (s : Session) : s.collect [] = s := rfl

lemma collect_append (s : Session) (found more : Findings) :
    s.collect (found ++ more) = (s.collect found).collect more := by
  simp only [collect, logOf, List.map_append, Report.addAll_append]

end Session

/-- A violation seen from where the match was begun. -/
def Violation.from (start : Path) (violation : Violation) : Violation :=
  ⟨violation.cause, start ++ violation.path⟩

/-- What a walk makes of a session in which it is begun. -/
def Walk.replay (w : Walk) (s : Session) : Except Violation Bool × Session :=
  match w.ending with
  | .ok verdict => (.ok verdict, s.collect w.found)
  | .error stop =>
    (.error (stop.violation.from s.path), { s.collect w.found with path := s.path ++ stop.left })

namespace Matching

/-- The match makes of every session what the walk makes of it. -/
def Replays (m : Matching Bool) (w : Walk) : Prop := ∀ s, m.on s = w.replay s

lemma replays_accept : Replays accept .pass := fun _ => rfl

lemma replays_reject (m : Mismatch) : Replays (reject m) (.miss m) := by
  intro s
  rw [reject, on_bind]
  simp [Walk.replay, Walk.miss, Session.collect, Session.logOf, Session.record]

lemma replays_abort (cause : Violation.Cause) : Replays (abort cause) (.stop cause) := by
  intro s
  simp [abort, on_bind, Walk.replay, Walk.stop, Violation.from]

/-- One step further in: the session's path is one step longer meanwhile, and nothing else
differs. -/
lemma Replays.within {part : Matching Bool} {w : Walk} (h : Replays part w) (step : Segment) :
    Replays (within step part) (w.under step) := by
  intro s
  have hfound : (s.push step).collect w.found =
      { s.collect (w.under step).found with path := s.path ++ [step] } := by
    simp [Session.collect, Session.logOf, Session.push, Path.push, Walk.under,
        Findings.under, Function.comp_def]
  simp only [Matching.within, on_bind, on_modify, h (s.push step), Walk.replay, Walk.under,
    on_pure, hfound]
  cases w.ending with
  | ok verdict =>
      simp [Except.mapError, Session.pop, Path.pop, Session.collect, Session.logOf]
  | error stop =>
      simp [Except.mapError, Walk.Stop.under, Violation.from, Session.push, Path.push,
        Session.collect, Session.logOf]

/-- One match after the other, both of which must find a fit. -/
lemma Replays.andThen {first second : Matching Bool} {w other : Walk} (h : Replays first w)
    (h' : Replays second other) :
    Replays (do let verdict ← first; let next ← second; return verdict && next)
      (w.andThen other) := by
  intro s
  simp only [on_bind, h s, on_pure]
  cases hw : w.ending with
  | error stop => simp [Walk.andThen_of_error hw, Walk.replay, hw]
  | ok verdict =>
      rw [Walk.andThen_of_ok hw]
      simp only [Walk.replay, hw, h' (s.collect w.found), Session.collect_append]
      cases other.ending with
      | ok next => simp [Except.map]
      | error stop => simp [Except.map, Session.collect, Session.logOf]

lemma replays_each {α : Type} {visit : α → Matching Bool} {walk : α → Walk} {list : List α}
    (h : ∀ item ∈ list, Replays (visit item) (walk item)) :
    Replays (each visit list) (.all (list.map walk)) := by
  induction list with
  | nil => exact replays_accept
  | cons item rest ih =>
      rw [List.map_cons, Walk.all_cons, each]
      exact (h item List.mem_cons_self).andThen
        (ih fun other hother => h other (List.mem_cons_of_mem item hother))

/-! ### Alternatives -/

/-- A trial tells how the walk ends, and leaves the session as it is. -/
lemma on_trial {part : Matching Bool} {w : Walk} (h : Replays part w) (s : Session) :
    (trial part).on s = (w.ending.mapError fun stop => stop.violation.from s.path, s) := by
  have hfork : (part.run s.fork).1 = (w.replay s.fork).1 := congrArg Prod.fst (h s.fork)
  rw [trial, on_bind, on_get]
  simp only [hfork, Walk.replay]
  cases w.ending <;> rfl

/-- If no alternative fits, all of them have been rejected. -/
lemma on_tried {alternatives : List Shape} {part : Shape → Matching Bool} {walk : Shape → Walk}
    (h : ∀ s ∈ alternatives, Replays (part s) (walk s)) (session : Session) :
    ∃ rejected, (tried (alternatives.map fun s => (s, part s))).on session =
        (((Walk.tried (alternatives.map walk)).map fun verdict => (verdict, rejected)).mapError
          (Violation.from session.path), session) ∧
      (Walk.tried (alternatives.map walk) = .ok false →
        rejected = .ofAlternatives alternatives) := by
  induction alternatives with
  | nil => exact ⟨_, rfl, fun _ => rfl⟩
  | cons s rest ih =>
      obtain ⟨rejected, hrest, hall⟩ :=
        ih fun other hother => h other (List.mem_cons_of_mem s hother)
      have hs := on_trial (h s List.mem_cons_self) session
      simp only [List.map_cons, tried, Walk.tried, on_bind, hs]
      cases (walk s).ending with
      | error stop => exact ⟨rejected, by simp [Except.mapError, Except.map], by simp⟩
      | ok verdict =>
          refine ⟨if verdict then rejected else rejected.add s, ?_, ?_⟩
          · simp only [Except.mapError, hrest]
            cases Walk.tried (rest.map walk) <;> simp [Except.map]
          · cases htried : Walk.tried (rest.map walk) with
            | error violation => simp [Except.map]
            | ok others =>
                cases others with
                | true => simp [Except.map]
                | false => cases verdict <;> simp [Except.map, Rejected.ofAlternatives, hall htried]

lemma replays_anyOf {alternatives : List Shape} {part : Shape → Matching Bool}
    {walk : Shape → Walk} (h : ∀ s ∈ alternatives, Replays (part s) (walk s)) (v : Value) :
    Replays (anyOf v (alternatives.map fun s => (s, part s)))
      (.anyOf (.ofAlternatives alternatives v) (alternatives.map walk)) := by
  intro session
  obtain ⟨rejected, htried, hall⟩ := on_tried h session
  rw [anyOf, on_bind, htried, Walk.anyOf]
  cases hverdict : Walk.tried (alternatives.map walk) with
  | error violation => simp [Except.map, Except.mapError, Walk.replay]
  | ok verdict =>
      cases verdict with
      | true => exact replays_accept session
      | false =>
          rw [hall hverdict]
          exact replays_reject _ session

/-! ### Rules -/

lemma replays_wrongKind (v : Value) (kind : Kind) :
    Replays (wrongKind v kind) (.wrongKind v kind) := replays_reject _

/-- A place that a condition decides on. -/
lemma replays_ite (c : Prop) [Decidable c] (m : Mismatch) :
    Replays (if c then accept else reject m) (if c then .pass else .miss m) := by
  split_ifs
  · exact replays_accept
  · exact replays_reject m

lemma replays_exact (kind : Kind) (v : Value) : Replays (exact kind v) (.exact kind v) :=
  replays_ite _ _

lemma replays_literal (expected v : Value) : Replays (literal expected v) (.literal expected v) :=
  replays_ite _ _

lemma replays_pattern (p : Pattern) (v : Value) : Replays (pattern p v) (.pattern p v) := by
  rw [pattern, Walk.pattern]
  cases v.text? with
  | none => exact replays_abort _
  | some s => exact replays_ite _ _

lemma replays_sequence {item : Value → Matching Bool} {walk : Value → Walk}
    (h : ∀ part, Replays (item part) (walk part)) (v : Value) :
    Replays (sequence item v) (.sequence walk v) := by
  cases v with
  | array items => exact replays_each fun part _ => (h part.1).within (.index part.2)
  | _ => exact replays_wrongKind _ .array

lemma replays_expectedKey (isDeclared : Bool) (key : String) :
    Replays (expectedKey isDeclared key) (.expectedKey isDeclared key) := by
  rw [expectedKey, Walk.expectedKey]
  split_ifs
  · exact replays_accept
  · exact (replays_reject _).within (.key key)

lemma replays_presentField (isRequired isPresent : Bool) (name : String) :
    Replays (presentField isRequired isPresent name)
      (.presentField isRequired isPresent name) := by
  rw [presentField, Walk.presentField]
  split_ifs
  · exact (replays_reject _).within (.key name)
  · exact replays_accept

variable {α : Type} {field : String → Option α} {part : α → Value → Matching Bool}
  {walk : α → Value → Walk}

lemma replays_fieldValue {key : String}
    (h : ∀ a, field key = some a → ∀ v, Replays (part a v) (walk a v)) (v : Value) :
    Replays (fieldValue ((field key).map part) key v)
      (.fieldValue ((field key).map walk) key v) := by
  cases hfield : field key with
  | none => exact replays_accept
  | some a => exact (h a hfield v).within (.key key)

lemma replays_record (declared : Declarations)
    (h : ∀ name a, field name = some a → ∀ v, Replays (part a v) (walk a v)) (v : Value) :
    Replays (record declared (fun name => (field name).map part) v)
      (.record declared (fun name => (field name).map walk) v) := by
  cases v with
  | map entries =>
      have hexpected := replays_each fun entry (_ : entry ∈ Value.byName entries) =>
        replays_expectedKey ((field entry.1).map part).isSome entry.1
      have hcomplete := replays_each fun entry (_ : entry ∈ declared) =>
        replays_presentField entry.2 (((Value.byName entries).map (·.1)).contains entry.1) entry.1
      have hfitting := replays_each fun entry (_ : entry ∈ Value.byName entries) =>
        replays_fieldValue (h entry.1) entry.2
      -- The matcher runs three passes; for the walk they are one row.
      have hwhole := (hexpected.andThen hcomplete).andThen hfitting
      simp only [bind_assoc, pure_bind, ← Walk.all_append, Option.isSome_map] at hwhole
      simp only [record, Walk.record, Walk.expectedKeys, Walk.presentFields, Walk.fieldValues,
        Option.isSome_map]
      exact hwhole
  | _ => exact replays_wrongKind _ .map

end Matching

/-! ## The match of a shape -/

namespace Shape

/-- **The match of a shape and a value replays their walk**, in every session. -/
theorem check_replays (shape : Shape) (v : Value) :
    (shape.check v).Replays (shape.walk v) := by
  induction shape generalizing v with
  | exact kind => exact Matching.replays_exact kind v
  | sequence item ih => exact Matching.replays_sequence ih v
  | record fields ih =>
      rw [check, walk_record, funext (checkField_eq fields)]
      exact Matching.replays_record _
        (fun name s hname part => ih (name, s) (Entries.mem_of_lookup? hname) part) v
  | union alternatives ih =>
      rw [check, walk_union, checkEach_eq]
      exact Matching.replays_anyOf (fun s hs => ih s hs v) v
  | optional inner ih =>
      have hboth : ∀ s ∈ [inner, .exact .null], (check s v).Replays (walk s v) := by
        simpa using ⟨ih v, Matching.replays_exact .null v⟩
      exact Matching.replays_anyOf hboth v
  | any => exact Matching.replays_accept
  | nothing => exact Matching.replays_reject .forbiddenKey
  | pattern p => exact Matching.replays_pattern p v
  | scalar expected h =>
      rw [check_scalar h, walk_scalar h]
      exact Matching.replays_literal expected v
  | emptyTemplate => exact Matching.replays_abort .emptyTemplate
  | arrayTemplate item rest ih => exact ih v
  | mapTemplate entries ih =>
      rw [check_mapTemplate, walk_mapTemplate]
      exact ih v

end Shape

/-- What an examination makes of a session. -/
theorem Session.examine_eq (s : Session) (shape : Shape) (v : Value) :
    s.examine shape v = (((shape.walk v).replay s).2, ((shape.walk v).replay s).1) := by
  rw [← shape.check_replays v s]
  rfl

end DataShape
