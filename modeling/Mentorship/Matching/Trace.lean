import Mentorship.Matching.Eligibility

/-! Traces: for one student the counts before and after every stage, whether or not candidates are
left. -/

namespace Mentorship.Matching

/-- The comparison that a stage makes. -/
inductive Comparison where
  | equals | greaterThan
  deriving DecidableEq, Repr

def Comparison.symbol : Comparison → String
  | equals => "=="
  | greaterThan => ">"

def Stage.comparison (s : Stage) : Comparison :=
  if s.isCapacityGate then .greaterThan else .equals

structure TraceRecord where
  studentId : String
  stage : Stage
  column : String
  comparison : Comparison
  expected : String
  before : Nat
  after : Nat
  isMatched : Bool
  deriving DecidableEq, Repr

namespace Trace

def wildcardMark : String := "*"

/-- What a stage compares with, in text. -/
def expected (p : Policy) (student : Student) : Stage → String
  | .capacityGate => "0"
  | .school =>
    if schoolIsWildcard p student then wildcardMark else (student.profile.get .school).render
  | s => (student.profile.get s).render

/-- One record per stage, the first of them starting from the mentors given. -/
def build (p : Policy) (student : Student) : List Stage → List Mentor → List TraceRecord
  | [], _ => []
  | s :: stages, ms =>
    let left := ms.filter (admits p student s)
    { studentId := student.id, stage := s, column := p.stageColumn s, comparison := s.comparison
      expected := expected p student s, before := ms.length, after := left.length
      isMatched := 0 < left.length } ::
      build p student stages left

def ofPool (p : Policy) (student : Student) (pool : List Mentor) : List TraceRecord :=
  build p student Stage.canonical pool

/-- The first stage that left no mentor. -/
def firstFailing? (trace : List TraceRecord) : Option Stage :=
  (trace.find? (·.after == 0)).map (·.stage)

def counts (trace : List TraceRecord) : List StageCount :=
  trace.map fun r => ⟨r.stage, r.after⟩

/-- What a stage of the trace compared with. -/
def expectedAt (trace : List TraceRecord) (s : Stage) : String :=
  ((trace.find? (·.stage == s)).map (·.expected)).getD ""

end Trace

end Mentorship.Matching
