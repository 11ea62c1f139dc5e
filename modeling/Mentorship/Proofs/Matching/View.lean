import Mentorship.Proofs.Matching.Turns

/-! What a student sees of a pool: all profiles, and of eligible mentors everything else. The
eligibility stages count profiles, and the capacity gate and the ranking look at eligible mentors
only, so a turn depends on the pool through what the student sees of it. -/

namespace Mentorship.Matching

variable (p : Policy) (student : Student)

/-- What a student sees of a mentor: the profile, and the whole mentor if eligible. -/
def Mentor.seenBy (m : Mentor) : Profile × Option Mentor :=
  (m.profile, if isEligible p student m then some m else none)

/-- What a student sees of a pool, place by place. -/
def view (pool : List Mentor) : List (Profile × Option Mentor) :=
  pool.map (·.seenBy p student)

/-- Seats taken of a mentor who is not eligible go unseen. -/
theorem Mentor.seenBy_takeSeat {m : Mentor} (h : isEligible p student m = false) :
    m.takeSeat.seenBy p student = m.seenBy p student := by
  have htaken : isEligible p student m.takeSeat = false := by
    rw [takeSeat_eq, isEligible_takeSeats, h]
  simp only [seenBy, h, htaken]
  simp [takeSeat]

theorem filter_isEligible_eq (pool : List Mentor) :
    pool.filter (isEligible p student) = (view p student pool).filterMap (·.2) := by
  rw [view, List.filterMap_map, ← List.filterMap_eq_filter]
  rfl

/-- What an eligibility stage leaves of the profiles depends on the profiles. -/
theorem map_profile_filter {s : Stage} (hs : s ≠ .capacityGate) (ms : List Mentor) :
    (ms.filter (admits p student s)).map (·.profile) =
      (ms.map (·.profile)).filter fun profile => admits p student s ⟨"", profile, 0, 0, 0⟩ := by
  rw [List.filter_map]
  congr 2
  funext m
  cases s with
  | capacityGate => exact absurd rfl hs
  | _ => rfl

theorem openCandidates_eq_filterMap (pool : List Mentor) :
    openCandidates p student pool =
      (view p student pool).zipIdx.filterMap fun seen =>
        (seen.1.2.filter (·.hasSeat)).map fun m => ⟨seen.2, m⟩ := by
  rw [view, List.zipIdx_map, List.filterMap_map, openCandidates, Candidate.withSeats,
    Screening.survivors_ofPool, List.filter_filter, Candidate.ofPool, List.filter_map,
    ← List.filterMap_eq_filter, List.map_filterMap]
  congr 1
  funext e
  obtain ⟨m, i⟩ := e
  by_cases he : isEligible p student m <;> by_cases hs : m.hasSeat <;>
    simp [Mentor.seenBy, Option.guard, Option.filter, he, hs]

/-! ### Profiles and stages -/

variable {p student} {pool pool' : List Mentor}

/-- The eligibility stages count profiles. -/
theorem Trace.build_of_profiles {stages : List Stage} (hgate : .capacityGate ∉ stages)
    {ms ms' : List Mentor} (h : ms.map (·.profile) = ms'.map (·.profile)) :
    build p student stages ms = build p student stages ms' := by
  induction stages generalizing ms ms' with
  | nil => rfl
  | cons s stages ih =>
    obtain ⟨hs, hstages⟩ := List.ne_and_not_mem_of_not_mem_cons hgate
    have hleft : (ms.filter (admits p student s)).map (·.profile) =
        (ms'.filter (admits p student s)).map (·.profile) := by
      rw [map_profile_filter p student hs.symm, map_profile_filter p student hs.symm, h]
    have hlength : ms.length = ms'.length := by simpa using congrArg List.length h
    have hlength' : (ms.filter (admits p student s)).length =
        (ms'.filter (admits p student s)).length := by simpa using congrArg List.length hleft
    simp only [build, ih hstages hleft, hlength, hlength']

/-- So does the stage that exhausts a screening. -/
theorem Screening.exhaustedAt_of_profiles (h : pool.map (·.profile) = pool'.map (·.profile)) :
    (Screening.ofPool p student pool).exhaustedAt =
      (Screening.ofPool p student pool').exhaustedAt := by
  have hgate : Stage.capacityGate ∉ Stage.eligibility := by decide
  rw [ofPool, ofPool, ← Trace.firstFailing?_build, ← Trace.firstFailing?_build,
    Candidate.map_mentor_ofPool, Candidate.map_mentor_ofPool, Trace.build_of_profiles hgate h]

/-! ### Turns -/

variable (h : view p student pool = view p student pool')

include h in
theorem map_profile_of_view : pool.map (·.profile) = pool'.map (·.profile) := by
  have hfst := congrArg (List.map Prod.fst) h
  rw [view, view, List.map_map, List.map_map] at hfst
  exact hfst

include h in
theorem Trace.ofPool_of_view : Trace.ofPool p student pool = Trace.ofPool p student pool' := by
  have heligible : pool.filter (isEligible p student) = pool'.filter (isEligible p student) := by
    rw [filter_isEligible_eq, filter_isEligible_eq, h]
  have hgate : Stage.capacityGate ∉ Stage.eligibility := by decide
  rw [Trace.ofPool_eq, Trace.ofPool_eq, Candidate.map_mentor_ofPool, Candidate.map_mentor_ofPool,
    build_of_profiles hgate (map_profile_of_view h), Screening.survivors_ofPool,
    Screening.survivors_ofPool, Candidate.map_mentor_filter_ofPool,
    Candidate.map_mentor_filter_ofPool, heligible]

include h in
/-- A decision depends on what the student sees, down to the place of the mentor selected. -/
theorem Decision.ofPool_of_view :
    Decision.ofPool p student pool = Decision.ofPool p student pool' := by
  refine ofPool_congr p student pool
    (Screening.exhaustedAt_of_profiles (map_profile_of_view h)) ?_
  rw [openCandidates_eq_filterMap, openCandidates_eq_filterMap, h]

include h in
theorem Turn.ofPool_of_view (row : Nat) :
    Turn.ofPool p row student pool = Turn.ofPool p row student pool' := by
  simp only [Turn.ofPool, Trace.ofPool_of_view h, Decision.ofPool_of_view h]

end Mentorship.Matching
