import Mentorship.Proofs.Matching.Turns

/-! Consecutive batches. A turn depends on the students before it through the pool alone, and on
their number through the row that its log entry shows. Hence students who come after others are
matched as in a batch of their own on the pool that those have left, and two batches one after the
other are one batch. -/

namespace Mentorship.Matching

/-! ### Rows counted from elsewhere -/

/-- A log entry with its row counted from `rows` rows further up. -/
def LogEntry.shift (rows : Nat) (e : LogEntry) : LogEntry :=
  { e with row := e.row + rows }

def Turn.shift (rows : Nat) (t : Turn) : Turn :=
  { t with entry := t.entry.shift rows }

@[simp] theorem LogEntry.failure?_shift (rows : Nat) (e : LogEntry) :
    (e.shift rows).failure? = e.failure? := rfl

@[simp] theorem Turn.placement_shift (rows : Nat) (t : Turn) :
    (t.shift rows).placement = t.placement := rfl

@[simp] theorem Turn.entry_shift (rows : Nat) (t : Turn) :
    (t.shift rows).entry = t.entry.shift rows := rfl

@[simp] theorem Turn.trace_shift (rows : Nat) (t : Turn) : (t.shift rows).trace = t.trace := rfl

/-- A turn knows its row from the log entry alone. -/
theorem Turn.ofPool_add (p : Policy) (row rows : Nat) (student : Student) (pool : List Mentor) :
    ofPool p (row + rows) student pool = (ofPool p row student pool).shift rows := rfl

/-! ### One batch after another -/

/-- Two outcomes as one: the log of the second goes on where that of the first ends, the counts of
students add up, and seats are as the second leaves them. -/
def Outcome.followedBy (first second : Outcome) : Outcome where
  placements := first.placements ++ second.placements
  pool := second.pool
  log := first.log ++ second.log.map (·.shift first.summary.students)
  trace := first.trace ++ second.trace
  summary :=
    { policyVersion := second.summary.policyVersion
      students := first.summary.students + second.summary.students
      allocated := first.summary.allocated + second.summary.allocated
      noMatch := first.summary.noMatch + second.summary.noMatch
      full := first.summary.full + second.summary.full
      mentors := second.summary.mentors
      remaining := second.summary.remaining }
  progress := Batch.notices (first.summary.students + second.summary.students)

namespace Batch

variable (p : Policy)

theorem turns_add (row rows : Nat) (students : List Student) (pool : List Mentor) :
    turns p (row + rows) students pool = (turns p row students pool).map (·.shift rows) := by
  induction students generalizing row pool with
  | nil => rfl
  | cons student students ih =>
    rw [turns, turns, List.map_cons, Turn.ofPool_add, Nat.add_right_comm, ih]

/-- Later students take the turns of a batch of their own on the pool that they find. -/
theorem turns_append (row : Nat) (students later : List Student) (pool : List Mentor) :
    turns p row (students ++ later) pool =
      turns p row students pool ++
        (turns p row later (poolAfter p students pool)).map (·.shift students.length) := by
  induction students generalizing row pool with
  | nil =>
    rw [List.nil_append, poolAfter_nil, List.length_nil, ← turns_add]
    rfl
  | cons student students ih =>
    have hrow : row + (student :: students).length = row + 1 + students.length := by
      rw [List.length_cons]
      omega
    rw [List.cons_append, turns, turns, ih, List.cons_append, poolAfter_cons, ← turns_add,
      ← turns_add, hrow]

/-- The same, with rows counted from the first student of all. -/
theorem turns_append_row (row : Nat) (students later : List Student) (pool : List Mentor) :
    turns p row (students ++ later) pool =
      turns p row students pool ++
        turns p (row + students.length) later (poolAfter p students pool) := by
  rw [turns_append, turns_add]

theorem countFailures_append (log later : List LogEntry) (f : Failure) :
    countFailures (log ++ later) f = countFailures log f + countFailures later f :=
  List.countP_append

theorem countFailures_shift (rows : Nat) (log : List LogEntry) (f : Failure) :
    countFailures (log.map (·.shift rows)) f = countFailures log f := by
  simp only [countFailures, List.countP_map, Function.comp_def, LogEntry.failure?_shift]

theorem outcome_append (ts us : List Turn) (pool after : List Mentor) :
    outcome p (ts ++ us.map (·.shift ts.length)) after =
      (outcome p ts pool).followedBy (outcome p us after) := by
  have hlog : (us.map (·.shift ts.length)).map (·.entry) =
      (us.map (·.entry)).map (·.shift ts.length) := by
    simp only [List.map_map, Function.comp_def, Turn.entry_shift]
  have htrace : (us.map (·.shift ts.length)).flatMap (·.trace) = us.flatMap (·.trace) := by
    simp only [List.flatMap_map, Turn.trace_shift]
  have hplacements : (us.map (·.shift ts.length)).filterMap (·.placement) =
      us.filterMap (·.placement) := by
    simp only [List.filterMap_map, Function.comp_def, Turn.placement_shift]
  simp only [outcome, Outcome.followedBy, List.filterMap_append, List.map_append,
    List.flatMap_append, List.length_append, List.length_map, hlog, htrace, hplacements,
    countFailures_append, countFailures_shift]

/-- A batch over some students and later ones is the batch over the first, whoever comes later, and
then the batch over the later ones on the pool that the first batch leaves. -/
theorem run_followedBy (students : List Student) (pool : List Mentor) :
    ∃ first, run p students pool = .ok first ∧ first.summary.students = students.length ∧
      ∀ later, ∃ second, run p later first.pool = .ok second ∧
        run p (students ++ later) pool = .ok (first.followedBy second) := by
  refine ⟨_, run_eq p students pool, length_turns p 0 students pool, fun later => ?_⟩
  refine ⟨_, run_eq p later (poolAfter p students pool), ?_⟩
  rw [run_eq, turns_append, poolAfter_append, ← length_turns p 0 students pool, outcome_append]

end Batch

end Mentorship.Matching
