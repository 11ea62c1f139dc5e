import Mentorship.Matching.Outcome
import Mentorship.Matching.Ranking
import Mentorship.Matching.Roll

/-! Batches: students in their order, each matched against the pool that those before have left. -/

namespace Mentorship.Matching

/-! ### One student -/

/-- The mentor chosen for a student among a number of candidates, or why and at which stage there
is none. -/
inductive Decision where
  | selected (winner : Candidate) (candidates : Nat)
  | failed (failure : Failure) (stage : Stage)
  deriving DecidableEq, Repr

def Decision.ofPool (p : Policy) (student : Student) (pool : List Mentor) : Decision :=
  let screening := Screening.ofPool p student pool
  match screening.exhaustedAt with
  | some s => .failed .noMatch s
  | none =>
    let gate := Candidate.withSeats screening.survivors
    if hgate : gate.isEmpty then .failed .full .capacityGate
    else
      let ranked := Ranking.rank p student gate
      .selected (ranked.head (Ranking.rank_ne_nil p student hgate)) ranked.length

/-- What one student adds to a batch. -/
structure Turn where
  placement : Option Placement
  entry : LogEntry
  trace : List TraceRecord
  deriving DecidableEq, Repr

/-- Matches one student and takes the seat of the mentor chosen. -/
def turn (p : Policy) (row : Nat) (student : Student) (pool : List Mentor) :
    Except Error (Turn × List Mentor) :=
  let trace := Trace.ofPool p student pool
  let entry (v : Verdict) : LogEntry := ⟨row, student.id, Trace.counts trace, v⟩
  match Decision.ofPool p student pool with
  | .selected winner candidates => do
    let reason := Ranking.reason p winner.mentor candidates
    let (seats, pool) ← Ledger.commit pool winner.index
    let verdict : Verdict := .placed winner.mentor.id candidates seats reason
    return (⟨some ⟨student.id, winner.mentor.id⟩, entry verdict, trace⟩, pool)
  | .failed failure s =>
    let column := p.stageColumn s
    let detail := failure.summary s column (Trace.expectedAt trace s)
    .ok (⟨none, entry (.unplaced failure s detail (failure.remedies s column)), trace⟩, pool)

/-! ### All students -/

namespace Batch

/-- The turns of the students from `row` on, and the pool after them. -/
def turnsFrom (p : Policy) (row : Nat) :
    List Student → List Mentor → Except Error (List Turn × List Mentor)
  | [], pool => .ok ([], pool)
  | student :: students, pool => do
    let (t, pool) ← turn p row student pool
    let (ts, pool) ← turnsFrom p (row + 1) students pool
    return (t :: ts, pool)

/-- The share of `total` students done, in hundredths and in machine words. -/
def share (done total : Nat) : USize :=
  .ofNat done * 100 / max (.ofNat total) 1

/-- The share narrowed to a byte, which stays below the hundred of a finished batch. -/
def percent (done total : Nat) : Nat :=
  (min (share done total).toUInt8 99).toNat

def startNotice (total : Nat) : Notice :=
  ⟨0, s!"allocation started: {total} student(s)"⟩

def turnNotice (done total : Nat) : Notice :=
  ⟨percent done total, s!"processed {done}/{total} student(s)"⟩

def endNotice : Notice :=
  ⟨100, "allocation complete"⟩

/-- A notice at the start, one after each of `total` students, and one at the end. -/
def notices (total : Nat) : List Notice :=
  startNotice total :: (List.range total).map (fun i => turnNotice (i + 1) total) ++ [endNotice]

/-- The free seats of a pool; a mentor below zero counts as having none. -/
def freeSeats (pool : List Mentor) : Int :=
  pool.foldr (fun m seats => max m.remaining 0 + seats) 0

def countFailures (log : List LogEntry) (f : Failure) : Nat :=
  log.countP (·.failure? == some f)

def outcome (p : Policy) (turns : List Turn) (pool : List Mentor) : Outcome :=
  let placements := turns.filterMap (·.placement)
  let log := turns.map (·.entry)
  { placements, pool, log
    trace := turns.flatMap (·.trace)
    summary := {
      policyVersion := p.version.render
      students := turns.length
      allocated := placements.length
      noMatch := countFailures log .noMatch
      full := countFailures log .full
      mentors := pool.length
      remaining := freeSeats pool }
    progress := notices turns.length }

def run (p : Policy) (students : List Student) (pool : List Mentor) : Except Error Outcome := do
  let (turns, pool) ← turnsFrom p 0 students pool
  return outcome p turns pool

/-- Reads both sheets, the students first, and runs the batch. -/
def runSheets (p : Policy) (students pool : Sheet) : Except Error Outcome := do
  let students ← Student.ofSheet students p
  let pool ← Mentor.ofSheet pool p
  run p students pool

end Batch

end Mentorship.Matching
