import Mentorship.Proofs.Matching.SeatAccounts

/-! What an outcome reports, row by row. Every student has one log entry, from which the placement
can be read, and eight trace records, which stand together in the trace. -/

namespace Mentorship.Matching

namespace LogEntry

variable (e : LogEntry)

/-- The placement that a log entry reports. -/
def placement? : Option Placement :=
  e.mentorId?.map fun id => ⟨e.studentId, id⟩

@[simp] theorem row_fields : e.fields.row = e.row := by
  unfold fields
  cases e.verdict <;> rfl

@[simp] theorem studentId_fields : e.fields.studentId = e.studentId := by
  unfold fields
  cases e.verdict <;> rfl

@[simp] theorem counts_fields : e.fields.counts = e.counts := by
  unfold fields
  cases e.verdict <;> rfl

end LogEntry

/-- The trace records of the student in a row. -/
def Outcome.records (out : Outcome) (row : Nat) : List TraceRecord :=
  (out.trace.drop (8 * row)).take 8

@[simp] theorem Trace.length_ofPool (p : Policy) (student : Student) (pool : List Mentor) :
    (ofPool p student pool).length = 8 :=
  length_build p student Stage.canonical pool

theorem Turn.placement?_entry (p : Policy) (row : Nat) (student : Student) (pool : List Mentor) :
    (ofPool p row student pool).entry.placement? = (ofPool p row student pool).placement := by
  simp only [LogEntry.placement?, mentorId?_ofPool, Option.map_map]
  simp only [ofPool]
  cases Decision.ofPool p student pool <;> rfl

namespace Batch

variable (p : Policy)

/-- Where every turn has eight records, those of a row are those of its turn. -/
theorem records_outcome {ts : List Turn} (hts : ∀ t ∈ ts, t.trace.length = 8) (pool : List Mentor)
    (i : Nat) : (outcome p ts pool).records i = (ts[i]?.map (·.trace)).getD [] := by
  simp only [Outcome.records, outcome]
  induction ts generalizing i with
  | nil => simp
  | cons t ts ih =>
    obtain ⟨ht, hts⟩ := List.forall_mem_cons.mp hts
    cases i with
    | zero => simp [← ht]
    | succ i =>
      have hdrop : 8 * (i + 1) = t.trace.length + 8 * i := by omega
      rw [List.flatMap_cons, hdrop, List.drop_length_add_append, ih hts]
      rfl

theorem placements_turns (row : Nat) (students : List Student) (pool : List Mentor) :
    (turns p row students pool).filterMap (·.placement) =
      ((turns p row students pool).map (·.entry)).filterMap (·.placement?) := by
  induction students generalizing row pool with
  | nil => rfl
  | cons student students ih =>
    simp only [turns, List.map_cons, List.filterMap_cons, ih, Turn.placement?_entry]

theorem length_trace_of_mem_turns {row : Nat} {students : List Student} {pool : List Mentor}
    {x : Turn} (hx : x ∈ turns p row students pool) : x.trace.length = 8 := by
  obtain ⟨i, hi⟩ := List.mem_iff_getElem?.mp hx
  rw [getElem?_turns, Option.map_eq_some_iff] at hi
  obtain ⟨student, -, rfl⟩ := hi
  exact Trace.length_ofPool p student _

end Batch

end Mentorship.Matching
