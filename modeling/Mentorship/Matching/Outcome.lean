import Mentorship.Matching.Ledger
import Mentorship.Matching.Trace

/-! What a batch leaves behind: placements, the log, the trace, the pool and totals. -/

namespace Mentorship.Matching

/-- Why a student was left without a mentor. -/
inductive Failure where
  | noMatch | full
  deriving DecidableEq, Repr

namespace Failure

def code : Failure → String
  | noMatch => "ELIGIBILITY_NO_MATCH"
  | full => "CAPACITY_FULL"

def summary (f : Failure) (s : Stage) (column expected : String) : String :=
  match f with
  | noMatch => s!"no mentor matches {s.key} ('{column}' == '{expected}')"
  | full => "eligible mentors exist but none has remaining capacity"

/-- What can be done about it. -/
def remedies (f : Failure) (s : Stage) (column : String) : List String :=
  match f with
  | noMatch => [s!"verify the student's '{column}' value",
      s!"add or activate a mentor covering this {s.key} value"]
  | full => ["raise the remaining capacity of an eligible mentor",
      "re-run the student in a later batch after capacity is released"]

end Failure

/-- A student and the mentor found. -/
structure Placement where
  studentId : String
  mentorId : String
  deriving DecidableEq, Repr

/-- How the search for one student's mentor ended. -/
inductive Verdict where
  | placed (mentorId : String) (candidates : Nat) (seats : SeatChange) (reason : String)
  | unplaced (failure : Failure) (stage : Stage) (detail : String) (remedies : List String)
  deriving DecidableEq, Repr

structure LogEntry where
  row : Nat
  studentId : String
  counts : List StageCount
  verdict : Verdict
  deriving DecidableEq, Repr

namespace LogEntry

def isPlaced (e : LogEntry) : Bool :=
  match e.verdict with
  | .placed .. => true
  | .unplaced .. => false

def failure? (e : LogEntry) : Option Failure :=
  match e.verdict with
  | .placed .. => none
  | .unplaced f .. => some f

end LogEntry

/-- A log entry field by field, where a field that does not apply is absent. -/
structure LogFields where
  row : Nat
  studentId : String
  isPlaced : Bool
  mentorId : Option String
  candidates : Nat
  counts : List StageCount
  failedStage : Option Stage
  before : Option Int
  after : Option Int
  reason : Option String
  failure : Option Failure
  detail : Option String
  remedies : List String
  deriving DecidableEq, Repr

def LogEntry.fields (e : LogEntry) : LogFields :=
  match e.verdict with
  | .placed mentorId candidates seats reason =>
    { row := e.row, studentId := e.studentId, isPlaced := true, mentorId := some mentorId
      candidates, counts := e.counts, failedStage := none, before := some seats.before
      after := some seats.after, reason := some reason, failure := none, detail := none
      remedies := [] }
  | .unplaced failure stage detail remedies =>
    { row := e.row, studentId := e.studentId, isPlaced := false, mentorId := none
      candidates := 0, counts := e.counts, failedStage := some stage, before := none
      after := none, reason := none, failure := some failure, detail := some detail
      remedies }

structure Summary where
  policyVersion : String
  students : Nat
  allocated : Nat
  noMatch : Nat
  full : Nat
  mentors : Nat
  remaining : Int
  deriving DecidableEq, Repr

/-- A notice of progress. -/
structure Notice where
  percent : Nat
  message : String
  deriving DecidableEq, Repr

structure Outcome where
  placements : List Placement
  pool : List Mentor
  log : List LogEntry
  trace : List TraceRecord
  summary : Summary
  progress : List Notice
  deriving DecidableEq, Repr

end Mentorship.Matching
