import Mentorship.Proofs.Matching.Turns

/-! Maximality of a finished batch: no student who was left without a mentor stands beside a free
seat of an eligible one. A failure is decided on the pool of its turn, and the claim about the final
pool follows because seats never come back and profiles never change. -/

namespace Mentorship.Matching.Batch

variable {p : Policy} {student : Student} {pool : List Mentor}

/-- Whoever fails on a pool finds all eligible mentors full in every pool that later students
leave. -/
theorem remaining_nonpos_of_failed {f : Failure} {s : Stage}
    (h : Decision.ofPool p student pool = .failed f s) (later : List Student) :
    ∀ m ∈ poolAfter p later pool, isEligible p student m = true → m.remaining ≤ 0 := by
  intro m hm he
  obtain ⟨m₀, hm₀, n, rfl⟩ := exists_of_mem_poolAfter p hm
  rw [isEligible_takeSeats] at he
  have hfull := Decision.of_failed h m₀ hm₀ he
  have h₀ : ¬ 0 < m₀.remaining := by rw [← Mentor.hasSeat_iff, hfull]; simp
  rw [Mentor.remaining_takeSeats]
  omega

/-- Whoever finds no eligible mentor in a pool finds none in any that later students leave. -/
theorem not_isEligible_of_noMatch {s : Stage}
    (h : Decision.ofPool p student pool = .failed .noMatch s) (later : List Student) :
    ∀ m ∈ poolAfter p later pool, isEligible p student m = false := by
  intro m hm
  obtain ⟨m₀, hm₀, n, rfl⟩ := exists_of_mem_poolAfter p hm
  rw [isEligible_takeSeats]
  exact Decision.of_noMatch h m₀ hm₀

/-- The pool that a batch leaves is the one that the students from the `i`-th on leave when they
start from the pool that the `i`-th met. -/
theorem poolAfter_drop_take (p : Policy) (students : List Student) (pool : List Mentor) (i : Nat) :
    poolAfter p (students.drop i) (poolAfter p (students.take i) pool) =
      poolAfter p students pool := by
  rw [← poolAfter_append, List.take_append_drop]

/-- Every batch ends with one log entry per student, and it is maximal: the mentors of the final
pool that are eligible for a student logged as failed have no seat left, and there are none at all
if the student failed for want of a match. -/
theorem run_maximal (p : Policy) (students : List Student) (pool : List Mentor) :
    ∃ out, run p students pool = .ok out ∧ out.log.length = students.length ∧
      ∀ (i : Nat) (student : Student) (e : LogEntry),
        students[i]? = some student → out.log[i]? = some e →
        e.studentId = student.id ∧
        (e.isPlaced = false →
          ∀ m ∈ out.pool, isEligible p student m = true → m.remaining ≤ 0) ∧
        (e.failure? = some .noMatch → ∀ m ∈ out.pool, isEligible p student m = false) := by
  refine ⟨_, run_eq p students pool, by simp [outcome], ?_⟩
  intro i student e hi he
  simp only [outcome, getElem?_log, hi, Option.map_some, Option.some.injEq] at he
  subst he
  have hlast := poolAfter_drop_take p students pool i
  set met := poolAfter p (students.take i) pool
  refine ⟨rfl, fun hfail => ?_, fun hfail => ?_⟩ <;> simp only [outcome, ← hlast]
  · cases hd : Decision.ofPool p student met with
    | selected w n => simp [Turn.ofPool, hd, Decision.verdict, LogEntry.isPlaced] at hfail
    | failed f s => exact remaining_nonpos_of_failed hd _
  · cases hd : Decision.ofPool p student met with
    | selected w n => simp [Turn.ofPool, hd, Decision.verdict, LogEntry.failure?] at hfail
    | failed f s =>
      have hf : f = .noMatch := by
        simpa [Turn.ofPool, hd, Decision.verdict, LogEntry.failure?] using hfail
      subst hf
      exact not_isEligible_of_noMatch hd _

end Mentorship.Matching.Batch
