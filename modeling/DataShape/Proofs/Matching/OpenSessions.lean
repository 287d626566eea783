import DataShape.Proofs.Matching.Places

/-!
# Sessions that are open side by side

A session may stay open for long.  Its path is moved, mismatches are recorded in it, and values are
matched in it, some of them only half-way: a violation leaves the path where the match was left, and
what was found until then in the report.  Forks of the session, and forks of these, are used in
between.  All the same its report is a log that grows at the end only, and by its own acts only.

* `Session.Act`, `Session.perform` — what may be done in a session.
* `Sessions.Operation`, `Sessions.run` — what may be done while several sessions are open.
* `Session.exists_log_performAll` — the acts of a session write a log, which is empty unless one of
  them records something.
* `Sessions.getElem?_run` — **a session is changed by its own acts alone.**
* `Sessions.messagesAt_prefix_run` — no message is lost or moved, and the outcome tells whether any
  was recorded.
-/

namespace DataShape

/-! ## One session -/

/-- A match records nothing exactly if its walk finds nothing. -/
lemma Shape.logs_nil_iff (shape : Shape) (v : Value) :
    shape.Logs v [] ↔ (shape.walk v).found = [] := by
  constructor
  · intro h
    exact List.map_eq_nil_iff.mp (h.places_perm (shape.logs_walk v)).nil_eq.symm
  · intro h
    rw [← h]
    exact shape.logs_walk v

/-- No log leaves a report as it is but the one without messages. -/
lemma Report.addAll_eq_self_iff (r : Report) (log : List (Path × String)) :
    r.addAll log = r ↔ log = [] := by
  constructor
  · intro hsame
    have hlength := (r.toList_addAll_perm log).length_eq
    rw [hsame, List.length_append, List.length_map] at hlength
    exact List.length_eq_zero_iff.mp (by omega)
  · rintro rfl
    exact r.addAll_nil

namespace Session

/-- What may be done in a session. -/
inductive Act where
  | push (step : Segment)
  /-- Goes back one step; at the root there is none to go back. -/
  | pop
  | record (m : Mismatch)
  /-- Matches a value at the current path, whatever the result is. -/
  | examine (shape : Shape) (v : Value)

/-- What an act makes of a session. -/
def perform (s : Session) : Act → Session
  | .push step => s.push step
  | .pop => s.pop
  | .record m => s.record m
  | .examine shape v => (s.examine shape v).1

/-- What acts make of a session, one after the other. -/
def performAll (s : Session) (acts : List Act) : Session := acts.foldl perform s

/-- The act leaves a message in the report: a mismatch is recorded, or a match records one. -/
def Act.Records : Act → Prop
  | .push _ => False
  | .pop => False
  | .record _ => True
  | .examine shape v => ¬ shape.Logs v []

lemma exists_log_perform (s : Session) (a : Act) :
    ∃ log, (s.perform a).report = s.report.addAll log ∧ (log = [] ↔ ¬ a.Records) := by
  cases a with
  | push step => exact ⟨[], rfl, by simp [Act.Records]⟩
  | pop => exact ⟨[], rfl, by simp [Act.Records]⟩
  | record m => exact ⟨[(s.path, m.message)], rfl, by simp [Act.Records]⟩
  | examine shape v =>
      refine ⟨s.logOf (shape.walk v).found, shape.logs_walk v s, ?_⟩
      rw [logOf, List.map_eq_nil_iff, Act.Records, not_not, shape.logs_nil_iff]

/-- The acts of a session write a log, which is empty unless one of them records something. -/
lemma exists_log_performAll (s : Session) (acts : List Act) :
    ∃ log, (s.performAll acts).report = s.report.addAll log ∧
      (log = [] ↔ ∀ a ∈ acts, ¬ a.Records) := by
  induction acts generalizing s with
  | nil => exact ⟨[], rfl, by simp⟩
  | cons a rest ih =>
      obtain ⟨log, hlog, hempty⟩ := s.exists_log_perform a
      obtain ⟨more, hmore, hnone⟩ := ih (s.perform a)
      refine ⟨log ++ more, ?_, ?_⟩
      · rw [Report.addAll_append, ← hlog]
        exact hmore
      · rw [List.append_eq_nil_iff, hempty, hnone, List.forall_mem_cons]

end Session

/-! ## Several sessions -/

/-- The sessions that are open, in the order in which they were opened. -/
abbrev Sessions := List Session

namespace Sessions

/-- What may be done while several sessions are open. -/
inductive Operation where
  /-- Something is done in one of the sessions. -/
  | act (target : Nat) (a : Session.Act)
  /-- A fork of one of the sessions is opened, which may go by settings of its own. -/
  | fork (target : Nat) (settings : Settings)

/-- What an operation makes of the open sessions. -/
def step (live : Sessions) : Operation → Sessions
  | .act target a => live.modify target fun s => s.perform a
  | .fork target settings =>
    live ++ (live[target]?.map fun s => { s.fork with settings := settings }).toList

/-- What operations make of the open sessions, one after the other. -/
def run (live : Sessions) (operations : List Operation) : Sessions := operations.foldl step live

/-- One session, at the root, in which nothing was found. -/
def start (settings : Settings) : Sessions := [.new settings]

/-- The act in the session with a number, if the operation is one. -/
def Operation.actIn (i : Nat) : Operation → Option Session.Act
  | .act target a => if target = i then some a else none
  | .fork _ _ => none

/-- The acts in the session with a number. -/
def actsIn (i : Nat) (operations : List Operation) : List Session.Act :=
  operations.filterMap (Operation.actIn i)

variable {live : Sessions} {s : Session} {i : Nat}

lemma mem_actsIn {operations : List Operation} {a : Session.Act} :
    a ∈ actsIn i operations ↔ .act i a ∈ operations := by
  rw [actsIn, List.mem_filterMap]
  constructor
  · rintro ⟨operation, hmem, hact⟩
    cases operation with
    | act target b =>
        rw [Operation.actIn, Option.ite_none_right_eq_some, Option.some_inj] at hact
        rwa [← hact.1, ← hact.2]
    | fork target settings => cases hact
  · exact fun hmem => ⟨_, hmem, if_pos rfl⟩

lemma getElem?_step (h : live[i]? = some s) (operation : Operation) :
    (live.step operation)[i]? = some ((operation.actIn i).elim s s.perform) := by
  cases operation with
  | act target a =>
      rw [step, List.getElem?_modify, h, Operation.actIn]
      split_ifs <;> rfl
  | fork target settings =>
      have hlt : i < live.length := (List.getElem?_eq_some_iff.mp h).1
      rw [step, List.getElem?_append_left hlt, h]
      rfl

/-- **A session is changed by its own acts alone**, not by acts in its forks or by being forked. -/
theorem getElem?_run (h : live[i]? = some s) (operations : List Operation) :
    (live.run operations)[i]? = some (s.performAll (actsIn i operations)) := by
  induction operations generalizing live s with
  | nil => exact h
  | cons operation rest ih =>
      rw [run, List.foldl_cons, ← run, ih (getElem?_step h operation), actsIn, actsIn,
        List.filterMap_cons]
      cases operation.actIn i <;> rfl

/-- **Reports only grow, and only by what is recorded in their own session.**  One session is
begun, forks are opened and all are used in any order, by `operations` and then by `more`.  Then
every session that was open in between is still open; at every place its messages of then come
first; its report is another one exactly if an act in it recorded something since, be it a mismatch
or a match with any result; and it is what it was, path and report, if there was no act in it.  The
first session is valid in the end exactly if no act in it recorded anything, and then its message is
empty. -/
theorem messagesAt_prefix_run (settings : Settings) (operations more : List Operation) :
    (∀ i s, ((start settings).run operations)[i]? = some s →
      ∃ after, ((start settings).run (operations ++ more))[i]? = some after ∧
        (∀ place, s.report.messagesAt place <+: after.report.messagesAt place) ∧
        (after.report = s.report ↔ ∀ a, .act i a ∈ more → ¬ a.Records) ∧
        ((∀ a, .act i a ∉ more) → after = s)) ∧
    ∃ s, ((start settings).run operations)[0]? = some s ∧
      (s.finish.isValid = true ↔ ∀ a, .act 0 a ∈ operations → ¬ a.Records) ∧
      (s.finish.isValid = true → s.finish.message = "") := by
  constructor
  · intro i s hs
    obtain ⟨log, hlog, hempty⟩ := s.exists_log_performAll (actsIn i more)
    refine ⟨s.performAll (actsIn i more), ?_, fun place => ?_, ?_, fun hnone => ?_⟩
    · rw [run, List.foldl_append]
      exact getElem?_run hs more
    · rw [hlog, Report.messagesAt_addAll]
      exact List.prefix_append _ _
    · rw [hlog, Report.addAll_eq_self_iff, hempty]
      simp only [mem_actsIn]
    · have hacts : actsIn i more = [] :=
        List.eq_nil_iff_forall_not_mem.mpr fun a ha => hnone a (mem_actsIn.mp ha)
      rw [hacts, Session.performAll, List.foldl_nil]
  · obtain ⟨log, hlog, hempty⟩ := (Session.new settings).exists_log_performAll (actsIn 0 operations)
    refine ⟨_, getElem?_run rfl operations, ?_, fun hvalid => if_pos hvalid⟩
    rw [Session.finish, hlog, Report.isEmpty_addAll, Bool.and_eq_true_iff, List.isEmpty_iff, hempty]
    simp only [mem_actsIn]
    exact and_iff_right rfl

/-- A match that a violation stops half-way, in a session with a fork in which a mismatch is
recorded; then the session is used again, and at last the fork. -/
theorem messagesAt_prefix_run_of_fork :
    let shape := Shape.record [("b", .exact .integer), ("c", .literal (.array []))]
    let v := Value.map [(.text "b", .null), (.text "c", .null)]
    let operations : List Operation := [.act 0 (.push (.key "a")), .act 0 (.examine shape v),
      .fork 0 .usual, .act 1 (.record .forbiddenKey)]
    let more : List Operation := [.act 0 .pop, .act 0 (.record .forbiddenKey)]
    let last : List Operation := [.act 1 (.examine .nothing v)]
    ∃ s after, ((start .usual).run operations)[0]? = some s ∧
      ((start .usual).run (operations ++ more))[0]? = some after ∧
      s.path = [.key "a", .key "c"] ∧ after.path = [.key "a"] ∧
      (s.report.messagesAt [.key "a", .key "b"] ≠ [] ∧ ∀ place,
        s.report.messagesAt place <+: after.report.messagesAt place) ∧
      ((start .usual).run (operations ++ more ++ last))[0]? = some after ∧
      ¬ ∀ a, .act 0 a ∈ operations → ¬ a.Records := by
  intro shape v operations more last
  obtain ⟨after, hafter, hgrown, -⟩ :=
    (messagesAt_prefix_run .usual operations more).1 0 _ rfl
  obtain ⟨other, hother, -, -, hsame⟩ :=
    (messagesAt_prefix_run .usual (operations ++ more) last).1 0 after hafter
  obtain ⟨s, hs, hvalid, -⟩ := (messagesAt_prefix_run .usual operations more).2
  cases hafter
  refine ⟨_, _, rfl, rfl, rfl, rfl, ⟨by decide, hgrown⟩, ?_, ?_⟩
  · rw [← hsame (by simp [last])]
    exact hother
  · rw [← hvalid]
    cases hs
    decide

end Sessions

end DataShape
