import Mentorship.Proofs.Matching.TieBreak
import Mentorship.Proofs.Matching.Turns

/-! No batch is given up. A turn can be stopped only where it looks up a place of the pool, takes
the first of the ranked candidates, commits a seat or compares a failure with the trace. Each of
these succeeds on every pool, whatever free seats and identifiers it holds, so that a batch meets
only pools that the ledger reaches from the first one. -/

namespace Mentorship.Matching

/-! ### One turn -/

namespace Decision

theorem winner?_of_selected {p : Policy} {student : Student} {pool : List Mentor} {w : Candidate}
    {n : Nat} (h : ofPool p student pool = .selected w n) :
    Ranking.winner? p student (openCandidates p student pool) = some w := by
  obtain ⟨others, hrank⟩ := rank_of_selected h
  rw [Ranking.winner?, hrank, List.head?_cons]

/-- What a turn of a student on a pool relies on: those who survive the screening stand at their
places; the ranking rearranges the open ones and its first, where there are any, is selected; a
mentor selected stands in the pool, has a free seat and gives it; and a student who fails does so
where the trace says. -/
structure IsSound (p : Policy) (student : Student) (pool : List Mentor) : Prop where
  located : ∀ c ∈ (Screening.ofPool p student pool).survivors, pool[c.index]? = some c.mentor
  rearranged : (Ranking.rank p student (openCandidates p student pool)).Perm
    (openCandidates p student pool)
  first : openCandidates p student pool ≠ [] →
    ∃ w n, Ranking.winner? p student (openCandidates p student pool) = some w ∧
      ofPool p student pool = .selected w n
  selected : ∀ w n, ofPool p student pool = .selected w n →
    Ranking.winner? p student (openCandidates p student pool) = some w ∧
      pool[w.index]? = some w.mentor ∧ 0 < w.mentor.remaining ∧
      Ledger.commit pool w.index =
        .ok (⟨w.mentor.remaining, w.mentor.remaining - 1⟩, pool.set w.index w.mentor.takeSeat)
  failed : ∀ f s, ofPool p student pool = .failed f s →
    Trace.firstFailing? (Trace.ofPool p student pool) = some s

variable (p : Policy) (student : Student) (pool : List Mentor)

theorem isSound : IsSound p student pool where
  located c hc := ((Screening.mem_survivors_ofPool p student).mp hc).1
  rearranged := Ranking.rank_perm p student _
  first hopen := by
    cases hd : ofPool p student pool with
    | failed f s =>
      exact absurd ((openCandidates_eq_nil_iff p student pool).mpr (of_failed hd)) hopen
    | selected w n => exact ⟨w, n, winner?_of_selected hd, rfl⟩
  selected w n h := by
    obtain ⟨hget, -, hpos⟩ := winner_of_selected h
    exact ⟨winner?_of_selected h, hget, hpos, commit_of_selected h⟩
  failed f s h := by
    rw [firstFailing?_trace, h]
    rfl

end Decision

/-! ### All turns -/

namespace Batch

variable (p : Policy) {pool mid : List Mentor}

/-- A turn leaves a pool that the ledger reaches. -/
theorem reaches_settle (student : Student) (h : Ledger.Reaches pool mid) :
    Ledger.Reaches pool ((Decision.ofPool p student mid).settle mid) := by
  cases hd : Decision.ofPool p student mid with
  | failed f s => exact h
  | selected w n => exact h.step ((Decision.isSound p student mid).selected w n hd).2.2.2

theorem reaches_poolAfter (students : List Student) (h : Ledger.Reaches pool mid) :
    Ledger.Reaches pool (poolAfter p students mid) := by
  induction students generalizing mid with
  | nil => exact h
  | cons student students ih => exact ih (reaches_settle p student h)

/-- A batch ends with an entry for each student. Each of them meets the pool that a batch of those
before leaves, which the ledger reaches from the first one, and can be decided upon there. -/
theorem run_completes (students : List Student) (pool : List Mentor) :
    ∃ out, run p students pool = .ok out ∧ out.log.length = students.length ∧
      ∀ i student, students[i]? = some student →
        ∃ soFar, run p (students.take i) pool = .ok soFar ∧
          Ledger.Reaches pool soFar.pool ∧ Decision.IsSound p student soFar.pool := by
  refine ⟨_, run_eq p students pool, ?_, fun i student _ => ?_⟩
  · rw [outcome, List.length_map, length_turns]
  · exact ⟨_, run_eq p (students.take i) pool, reaches_poolAfter p _ .start,
      Decision.isSound p student _⟩

end Batch

end Mentorship.Matching
