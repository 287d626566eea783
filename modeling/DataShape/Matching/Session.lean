import DataShape.Matching.Mismatch
import DataShape.Report.Basic

/-!
# Sessions

A session collects what matches find in one report, keyed by where in a larger value they take
place.  It keeps a current path: a match goes one step further in for every part of the value it
turns to, and back when it is done with the part.  A fork has the same path and a report of its
own, so that a match can be tried without leaving a trace.

* `Session` — matches in progress.
* `Session.push`, `Session.pop` — one step further in, and back.
* `Session.record` — a finding at the current path.
* `Session.finish` — the outcome of all that was recorded.
-/

namespace DataShape

/-- The outcome of a match with all it found. -/
structure Outcome where
  /-- Whether nothing was found. -/
  isValid : Bool
  /-- What was found, by place. -/
  report : Report
  /-- The rendered report, empty if nothing was found. -/
  message : String

/-- Matches in progress: where they take place and what they found. -/
structure Session where
  /-- How findings are keyed and rendered. -/
  settings : Settings
  /-- The current path. -/
  path : Path
  /-- What was found so far. -/
  report : Report

namespace Session

/-- A session at the root, in which nothing was found. -/
def new (settings : Settings) : Session := ⟨settings, .root, .new settings⟩

/-- Goes one step further in. -/
def push (s : Session) (step : Segment) : Session := { s with path := s.path.push step }

/-- Goes back one step. -/
def pop (s : Session) : Session := { s with path := s.path.pop.2 }

/-- Records a mismatch at the current path. -/
def record (s : Session) (m : Mismatch) : Session :=
  { s with report := s.report.add s.path m.message }

/-- Whether anything was found. -/
def hasFindings (s : Session) : Bool := !s.report.isEmpty

/-- A session at the same path, in which nothing was found. -/
def fork (s : Session) : Session := { s with report := .new s.settings }

/-- The outcome of all that was recorded. -/
def finish (s : Session) : Outcome where
  isValid := s.report.isEmpty
  report := s.report
  message :=
    if s.report.isEmpty then ""
    else if s.settings.pretty then s.report.pretty
    else s.report.compact

end Session

end DataShape
