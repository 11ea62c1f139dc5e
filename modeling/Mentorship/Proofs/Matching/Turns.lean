import Mentorship.Proofs.Matching.Decision

/-! Turns: no student stops a batch, because a decision selects only mentors of the pool that have a
free seat. Hence a batch is a fold: each turn is a function of the student and of the pool that the
students before have left, and the pool changes only by seats taken, place by place. -/

namespace Mentorship.Matching

/-! ### Seats taken of one mentor -/

namespace Mentor

/-- A mentor of whom `n` seats have been taken. -/
def takeSeats (m : Mentor) (n : Nat) : Mentor :=
  { m with remaining := m.remaining - n, allocationsNew := m.allocationsNew + n }

theorem takeSeat_eq (m : Mentor) : m.takeSeat = m.takeSeats 1 := rfl

@[simp] theorem takeSeats_zero (m : Mentor) : m.takeSeats 0 = m := by
  simp [takeSeats]

@[simp] theorem takeSeats_takeSeats (m : Mentor) (a b : Nat) :
    (m.takeSeats a).takeSeats b = m.takeSeats (a + b) := by
  simp only [takeSeats, mk.injEq, true_and]
  push_cast
  omega

@[simp] theorem id_takeSeats (m : Mentor) (n : Nat) : (m.takeSeats n).id = m.id := rfl

@[simp] theorem remaining_takeSeats (m : Mentor) (n : Nat) :
    (m.takeSeats n).remaining = m.remaining - n := rfl

theorem hasSeat_iff {m : Mentor} : m.hasSeat = true ↔ 0 < m.remaining := by
  simp [hasSeat]

end Mentor

/-- Eligibility looks at profiles only. -/
theorem isEligible_congr (p : Policy) (student : Student) {a b : Mentor}
    (h : a.profile = b.profile) : isEligible p student a = isEligible p student b := by
  simp [isEligible, Stage.eligibility, admits, h]

@[simp] theorem isEligible_takeSeats (p : Policy) (student : Student) (m : Mentor) (n : Nat) :
    isEligible p student (m.takeSeats n) = isEligible p student m :=
  isEligible_congr p student rfl

/-! ### One turn -/

namespace Decision

/-- The pool after a decision: the chosen mentor has one seat less. -/
def settle (pool : List Mentor) : Decision → List Mentor
  | selected w _ => pool.set w.index w.mentor.takeSeat
  | failed .. => pool

/-- How many seats a decision takes at a place of the pool. -/
def taken (i : Nat) : Decision → Nat
  | selected w _ => if w.index = i then 1 else 0
  | failed .. => 0

def placement? (student : Student) : Decision → Option Placement
  | selected w _ => some ⟨student.id, w.mentor.id⟩
  | failed .. => none

def verdict (p : Policy) (trace : List TraceRecord) : Decision → Verdict
  | selected w n =>
    .placed w.mentor.id n ⟨w.mentor.remaining, w.mentor.remaining - 1⟩
      (Ranking.reason p w.mentor n)
  | failed f s =>
    .unplaced f s (f.summary s (p.stageColumn s) (Trace.expectedAt trace s))
      (f.remedies s (p.stageColumn s))

/-- What is known of a mentor who was selected. -/
theorem winner_of_selected {p : Policy} {student : Student} {pool : List Mentor} {w : Candidate}
    {n : Nat} (h : ofPool p student pool = .selected w n) :
    pool[w.index]? = some w.mentor ∧ isEligible p student w.mentor = true ∧
      0 < w.mentor.remaining := by
  obtain ⟨hi, he, hs⟩ := (mem_openCandidates p student pool).mp (of_selected h).1
  exact ⟨hi, he, Mentor.hasSeat_iff.mp hs⟩

/-- A decision changes the pool by the seats that it takes. -/
theorem getElem?_settle (p : Policy) (student : Student) (pool : List Mentor) (i : Nat) :
    ((ofPool p student pool).settle pool)[i]? =
      pool[i]?.map (·.takeSeats ((ofPool p student pool).taken i)) := by
  cases hd : ofPool p student pool with
  | failed f s => simp [settle, taken]
  | selected w n =>
    obtain ⟨hw, -, -⟩ := winner_of_selected hd
    simp only [settle, taken, List.getElem?_set]
    split
    · subst i
      obtain ⟨hlt, hget⟩ := List.getElem?_eq_some_iff.mp hw
      simp [hlt, hget, Mentor.takeSeat_eq]
    · simp

theorem getElem?_settle_of (p : Policy) (student : Student) {pool : List Mentor} {i : Nat}
    {m : Mentor} (hm : pool[i]? = some m) :
    ((ofPool p student pool).settle pool)[i]? =
      some (m.takeSeats ((ofPool p student pool).taken i)) := by
  rw [getElem?_settle, hm, Option.map_some]

end Decision

/-- The turn of a student who meets a pool. -/
def Turn.ofPool (p : Policy) (row : Nat) (student : Student) (pool : List Mentor) : Turn :=
  let trace := Trace.ofPool p student pool
  let d := Decision.ofPool p student pool
  ⟨d.placement? student, ⟨row, student.id, Trace.counts trace, d.verdict p trace⟩, trace⟩

/-- The ledger accepts every seat that a decision takes. -/
theorem commit_of_selected {p : Policy} {student : Student} {pool : List Mentor} {w : Candidate}
    {n : Nat} (h : Decision.ofPool p student pool = .selected w n) :
    Ledger.commit pool w.index =
      .ok (⟨w.mentor.remaining, w.mentor.remaining - 1⟩, pool.set w.index w.mentor.takeSeat) := by
  obtain ⟨hw, -, hs⟩ := Decision.winner_of_selected h
  simp [Ledger.commit, hw, Mentor.hasSeat_iff.mpr hs]

theorem turn_eq (p : Policy) (row : Nat) (student : Student) (pool : List Mentor) :
    turn p row student pool =
      .ok (Turn.ofPool p row student pool, (Decision.ofPool p student pool).settle pool) := by
  simp only [turn, Turn.ofPool]
  cases h : Decision.ofPool p student pool with
  | failed f s => rfl
  | selected w n =>
    simp only [commit_of_selected h]
    rfl

/-! ### All turns -/

namespace Batch

variable (p : Policy)

/-- The pool that students leave. -/
def poolAfter (students : List Student) (pool : List Mentor) : List Mentor :=
  students.foldl (fun pool student => (Decision.ofPool p student pool).settle pool) pool

@[simp] theorem poolAfter_nil (pool : List Mentor) : poolAfter p [] pool = pool := rfl

@[simp] theorem poolAfter_cons (student : Student) (students : List Student)
    (pool : List Mentor) :
    poolAfter p (student :: students) pool =
      poolAfter p students ((Decision.ofPool p student pool).settle pool) := rfl

theorem poolAfter_append (xs ys : List Student) (pool : List Mentor) :
    poolAfter p (xs ++ ys) pool = poolAfter p ys (poolAfter p xs pool) :=
  List.foldl_append

/-- The turns of the students from `row` on. -/
def turns (row : Nat) : List Student → List Mentor → List Turn
  | [], _ => []
  | student :: students, pool =>
    Turn.ofPool p row student pool ::
      turns (row + 1) students ((Decision.ofPool p student pool).settle pool)

theorem turnsFrom_eq (row : Nat) (students : List Student) (pool : List Mentor) :
    turnsFrom p row students pool = .ok (turns p row students pool, poolAfter p students pool) := by
  induction students generalizing row pool with
  | nil => rfl
  | cons student students ih =>
    simp only [turnsFrom, turn_eq, bind, Except.bind, ih]
    rfl

/-- Every batch runs to its end. -/
theorem run_eq (students : List Student) (pool : List Mentor) :
    run p students pool =
      .ok (outcome p (turns p 0 students pool) (poolAfter p students pool)) := by
  simp only [run, turnsFrom_eq]
  rfl

@[simp] theorem length_turns (row : Nat) (students : List Student) (pool : List Mentor) :
    (turns p row students pool).length = students.length := by
  induction students generalizing row pool with
  | nil => rfl
  | cons student students ih => simp [turns, ih]

/-- Each student meets the pool that those before have left. -/
theorem getElem?_turns (row i : Nat) (students : List Student) (pool : List Mentor) :
    (turns p row students pool)[i]? =
      students[i]?.map fun student =>
        Turn.ofPool p (row + i) student (poolAfter p (students.take i) pool) := by
  induction students generalizing row pool i with
  | nil => simp [turns]
  | cons student students ih =>
    cases i with
    | zero => simp [turns]
    | succ i => simp [turns, ih, Nat.add_comm 1 i, Nat.add_assoc]

/-- The log of a batch, entry by entry. -/
theorem getElem?_log (students : List Student) (pool : List Mentor) (i : Nat) :
    ((turns p 0 students pool).map (·.entry))[i]? =
      students[i]?.map fun student =>
        (Turn.ofPool p i student (poolAfter p (students.take i) pool)).entry := by
  rw [List.getElem?_map, getElem?_turns, Option.map_map, Nat.zero_add]
  rfl

theorem take_turns (row i : Nat) (students : List Student) (pool : List Mentor) :
    (turns p row students pool).take i = turns p row (students.take i) pool := by
  induction students generalizing row pool i with
  | nil => simp [turns]
  | cons student students ih =>
    cases i with
    | zero => simp [turns]
    | succ i => simp [turns, ih]

/-! ### Seats taken by all turns -/

/-- How many seats the students take at a place of the pool. -/
def taken (i : Nat) : List Student → List Mentor → Nat
  | [], _ => 0
  | student :: students, pool =>
    let d := Decision.ofPool p student pool
    d.taken i + taken i students (d.settle pool)

/-- A batch changes the pool by the seats that are taken, and by nothing else. -/
theorem getElem?_poolAfter (students : List Student) (pool : List Mentor) (i : Nat) :
    (poolAfter p students pool)[i]? = pool[i]?.map (·.takeSeats (taken p i students pool)) := by
  induction students generalizing pool with
  | nil => simp [taken]
  | cons student students ih =>
    rw [poolAfter_cons, ih, Decision.getElem?_settle, Option.map_map]
    simp [taken, Function.comp_def]

/-- Every mentor of the pool after a batch was in the pool before, with as many seats or more. -/
theorem exists_of_mem_poolAfter {students : List Student} {pool : List Mentor} {m : Mentor}
    (h : m ∈ poolAfter p students pool) : ∃ m₀ ∈ pool, ∃ n, m = m₀.takeSeats n := by
  obtain ⟨i, hi⟩ := List.mem_iff_getElem?.mp h
  rw [getElem?_poolAfter, Option.map_eq_some_iff] at hi
  obtain ⟨m₀, hm₀, rfl⟩ := hi
  exact ⟨m₀, List.mem_of_getElem? hm₀, _, rfl⟩

end Batch

end Mentorship.Matching
