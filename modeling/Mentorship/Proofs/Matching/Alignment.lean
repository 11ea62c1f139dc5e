import Mentorship.Proofs.Matching.Reports

/-! Outputs that stand together. Log, trace, placements and totals of a batch are filled in one loop
from two computations, the decision and the trace; row by row they tell the same story. -/

namespace Mentorship.Matching

/-- The stage of the first count without survivors. -/
def firstEmpty? (counts : List StageCount) : Option Stage :=
  (counts.find? (·.survivors == 0)).map (·.stage)

theorem Trace.firstEmpty?_counts (trace : List TraceRecord) :
    firstEmpty? (counts trace) = firstFailing? trace := by
  rw [firstEmpty?, counts, firstFailing?, List.find?_map, Option.map_map]
  rfl

/-! ### One entry -/

/-- An entry has a placement or a failure, never both. -/
theorem LogEntry.placed_or_failed (e : LogEntry) :
    (∃ id, e.fields.isPlaced = true ∧ e.fields.mentorId = some id ∧
      e.placement? = some ⟨e.studentId, id⟩ ∧ e.failure? = none) ∨
    ∃ f, e.fields.isPlaced = false ∧ e.placement? = none ∧ e.failure? = some f := by
  obtain ⟨row, studentId, counts, verdict⟩ := e
  cases verdict with
  | placed id => exact .inl ⟨id, rfl, rfl, rfl, rfl⟩
  | unplaced f => exact .inr ⟨f, rfl, rfl, rfl⟩

/-- What the fields of a log entry have to do with one another. -/
structure LogFields.Coherent (f : LogFields) : Prop where
  isPlaced_iff : f.isPlaced = true ↔
    f.mentorId.isSome ∧ f.before.isSome ∧ f.after.isSome ∧ f.reason.isSome ∧ f.failure = none ∧
      f.failedStage = none ∧ f.detail = none ∧ f.remedies = []
  candidates_of_placed : f.isPlaced = true →
    f.counts.getLast?.map (·.survivors) = some f.candidates
  of_unplaced : f.isPlaced = false →
    f.failure.isSome ∧ f.mentorId = none ∧ f.before = none ∧ f.after = none ∧ f.reason = none ∧
      f.candidates = 0 ∧ f.detail.isSome
  failedStage_of_unplaced : f.isPlaced = false →
    f.failedStage.isSome ∧ f.failedStage = firstEmpty? f.counts ∧
      (f.failedStage = some .capacityGate ↔ f.failure = some .full)

section Turn
variable (p : Policy) (row : Nat) (student : Student) (pool : List Mentor)

/-- The last count of a trace is that of the open candidates. -/
theorem Trace.getLast?_counts :
    (counts (ofPool p student pool)).getLast?.map (·.survivors) =
      some (openCandidates p student pool).length := by
  rw [counts, List.getLast?_map, Option.map_map, List.getLast?_eq_getElem?, length_ofPool,
    ← Decision.after_getElem?_seven]
  rfl

/-- The fields of an entry agree, with one another and with the trace of the turn. -/
theorem Turn.coherent_fields : (ofPool p row student pool).entry.fields.Coherent := by
  have hblamed := Decision.firstFailing?_trace p student pool
  rw [← Trace.firstEmpty?_counts] at hblamed
  cases hd : Decision.ofPool p student pool with
  | selected w n =>
    have hcount := Trace.getLast?_counts p student pool
    rw [← (Decision.of_selected hd).2] at hcount
    simp only [ofPool, hd, Decision.verdict, LogEntry.fields]
    exact {
      isPlaced_iff := by simp
      candidates_of_placed := fun _ => hcount
      of_unplaced := fun h => by cases h
      failedStage_of_unplaced := fun h => by cases h }
  | failed f s =>
    have hgate := Decision.failure_eq_full_iff p student pool hd
    rw [hd, Decision.failedAt?] at hblamed
    simp only [ofPool, hd, Decision.verdict, LogEntry.fields]
    exact {
      isPlaced_iff := by simp
      candidates_of_placed := fun h => by cases h
      of_unplaced := fun _ => by simp
      failedStage_of_unplaced := fun _ => ⟨rfl, hblamed.symm, by simp [hgate]⟩ }

end Turn

/-! ### The whole log -/

/-- The placements are the pairs of student and mentor in the entries of those placed. -/
theorem map_placements (log : List LogEntry) :
    (log.filterMap (·.placement?)).map (fun x => (x.studentId, some x.mentorId)) =
      ((log.map (·.fields)).filter (·.isPlaced)).map fun f => (f.studentId, f.mentorId) := by
  induction log with
  | nil => rfl
  | cons e log ih =>
    rcases e.placed_or_failed with ⟨id, hplaced, hmentor, hplacement, -⟩ |
      ⟨f, hplaced, hplacement, -⟩
    · simp [hplacement, hplaced, hmentor, ih]
    · simp [hplacement, hplaced, ih]

namespace Batch

/-- Every entry is counted once. -/
theorem sum_countFailures (log : List LogEntry) :
    (log.filterMap (·.placement?)).length + countFailures log .noMatch + countFailures log .full =
      log.length := by
  induction log with
  | nil => rfl
  | cons e log ih =>
    simp only [countFailures, List.countP_cons, List.length_cons] at ih ⊢
    rcases e.placed_or_failed with ⟨id, -, -, hplacement, hfailure⟩ | ⟨f, -, hplacement, hfailure⟩
    · simp [hplacement, hfailure]
      omega
    · cases f <;> simp [hplacement, hfailure] <;> omega

variable (p : Policy)

theorem length_trace_turns (row : Nat) (students : List Student) (pool : List Mentor) :
    ((turns p row students pool).flatMap (·.trace)).length = 8 * students.length := by
  induction students generalizing row pool with
  | nil => rfl
  | cons student students ih =>
    simp only [turns, List.flatMap_cons, List.length_append, ih, Turn.ofPool, Trace.length_ofPool,
      List.length_cons]
    omega

/-- Log, trace, placements and totals of a batch fit one another and the students. Each student has
the entry of the row, and in the trace the block of the row, which is the trace of the student
against the pool that a batch of the students before leaves. The entry counts what the block counts,
and its fields agree. Placements are read off the entries of those placed, in order, and the totals
count every student once. -/
theorem run_aligned (students : List Student) (pool : List Mentor) :
    ∃ out, run p students pool = .ok out ∧
      out.log.length = students.length ∧ out.trace.length = 8 * students.length ∧
      (∀ i student, students[i]? = some student →
        ∃ e earlier, out.log[i]? = some e ∧ run p (students.take i) pool = .ok earlier ∧
          e.fields.row = i ∧ e.fields.studentId = student.id ∧
          out.records i = Trace.ofPool p student earlier.pool ∧
          e.fields.counts = Trace.counts (out.records i) ∧ e.fields.Coherent) ∧
      out.placements.map (fun x => (x.studentId, some x.mentorId)) =
        ((out.log.map (·.fields)).filter (·.isPlaced)).map (fun f => (f.studentId, f.mentorId)) ∧
      out.summary.allocated + out.summary.noMatch + out.summary.full = out.summary.students ∧
      out.summary.students = students.length := by
  have hlength := length_turns p 0 students pool
  refine ⟨_, run_eq p students pool, ?_, length_trace_turns p 0 students pool,
    fun i student hi => ?_, ?_, ?_, hlength⟩
  · simp [outcome]
  · have hentry := getElem?_log p students pool i
    have hturn := getElem?_turns p 0 i students pool
    rw [hi, Option.map_some] at hentry hturn
    rw [records_outcome p (fun x hx => length_trace_of_mem_turns p hx), hturn]
    exact ⟨_, _, hentry, run_eq p (students.take i) pool, LogEntry.row_fields _,
      LogEntry.studentId_fields _, rfl, LogEntry.counts_fields _,
      Turn.coherent_fields p i student _⟩
  · exact (congrArg _ (placements_turns p 0 students pool)).trans (map_placements _)
  · have hsum := sum_countFailures ((turns p 0 students pool).map (·.entry))
    rw [← placements_turns, List.length_map] at hsum
    exact hsum

end Batch

end Mentorship.Matching
