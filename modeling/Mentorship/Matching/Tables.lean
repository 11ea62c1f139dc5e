import Mentorship.Matching.Outcome
import Mentorship.Sheet.File

/-! The tables that a batch is written to, each with a line of column names and a line per item. -/

namespace Mentorship.Matching.Tables

/-! ### Placements -/

def placementColumns : List String :=
  ["student_id", "mentor_id"]

def placementRow (x : Placement) : List String :=
  [x.studentId, x.mentorId]

def placements (xs : List Placement) : String :=
  Sheet.textOf placementColumns (xs.map placementRow)

/-! ### Pool -/

def poolColumns : List String :=
  ["mentor_id", "remaining_capacity", "initial_capacity", "allocations_new", "occupancy_ratio"]

/-- Occupancy in tables has six places. -/
def occupancyPlaces : Nat := 6

def poolRow (m : Mentor) : List String :=
  [m.id, toString m.remaining, toString m.initial, toString m.allocationsNew,
    m.occupancy.fixed occupancyPlaces]

def pool (ms : List Mentor) : String :=
  Sheet.textOf poolColumns (ms.map poolRow)

/-! ### Log -/

def logColumns : List String :=
  ["row_index", "student_id", "status", "mentor_id", "candidate_count", "stage_counts",
    "failed_stage", "capacity_before", "capacity_after", "selection_reason", "error_type",
    "detailed_reason", "suggested_actions"]

def countsText (counts : List StageCount) : String :=
  "|".intercalate (counts.map fun c => s!"{c.stage.key}={c.survivors}")

/-- The text of a field, empty if it is absent. -/
def optional {α : Type} (text : α → String) (x : Option α) : String :=
  (x.map text).getD ""

def statusText (isPlaced : Bool) : String :=
  if isPlaced then "success" else "failed"

def fieldsRow (f : LogFields) : List String :=
  [toString f.row, f.studentId, statusText f.isPlaced, optional id f.mentorId,
    toString f.candidates, countsText f.counts, optional Stage.key f.failedStage,
    optional toString f.before, optional toString f.after, optional id f.reason,
    optional Failure.code f.failure, optional id f.detail, "; ".intercalate f.remedies]

def logOfFields (fs : List LogFields) : String :=
  Sheet.textOf logColumns (fs.map fieldsRow)

def log (es : List LogEntry) : String :=
  logOfFields (es.map (·.fields))

/-! ### Trace -/

def traceColumns : List String :=
  ["student_id", "stage", "column", "operator", "expected_value", "total_before", "total_after",
    "matched"]

def traceRow (r : TraceRecord) : List String :=
  [r.studentId, r.stage.key, r.column, r.comparison.symbol, r.expected, toString r.before,
    toString r.after, if r.isMatched then "true" else "false"]

def trace (rs : List TraceRecord) : String :=
  Sheet.textOf traceColumns (rs.map traceRow)

end Mentorship.Matching.Tables
