import Mathlib.Data.List.Basic
import Mentorship.Matching.Trace

/-! Screening and its explanation. The stages leave exactly the candidates that all of them admit,
and the trace of the same stages, which goes on after no candidate is left, starts with the counts
of the screening and blames the stage that exhausted it. Only the eligibility stages are screened;
the last record of a trace is that of the capacity gate. -/

namespace Mentorship.Matching

variable (p : Policy) (student : Student)

/-! ### Candidates of a pool -/

namespace Candidate

@[simp] theorem map_mentor_ofPool (pool : List Mentor) : (ofPool pool).map (·.mentor) = pool := by
  simp only [ofPool, List.map_map]
  exact List.zipIdx_map_fst 0 pool

@[simp] theorem mem_ofPool {c : Candidate} {pool : List Mentor} :
    c ∈ ofPool pool ↔ pool[c.index]? = some c.mentor := by
  obtain ⟨index, mentor⟩ := c
  simp [ofPool, List.mem_zipIdx_iff_getElem?, and_comm, eq_comm]

/-- Filtering candidates by their mentors filters the pool. -/
theorem map_mentor_filter_ofPool (q : Mentor → Bool) (pool : List Mentor) :
    ((ofPool pool).filter fun c => q c.mentor).map (·.mentor) = pool.filter q := by
  conv_rhs => rw [← map_mentor_ofPool pool, List.filter_map]
  rfl

@[simp] theorem mem_withSeats {c : Candidate} {cs : List Candidate} :
    c ∈ withSeats cs ↔ c ∈ cs ∧ c.mentor.hasSeat = true := by
  simp [withSeats]

end Candidate

/-! ### What the stages leave -/

namespace Screening

theorem survivors_apply (stages : List Stage) (cs : List Candidate) :
    (apply p student stages cs).survivors =
      cs.filter fun c => stages.all (admits p student · c.mentor) := by
  induction stages generalizing cs with
  | nil => simp [apply]
  | cons s stages ih =>
    have hsplit : cs.filter (fun c => (s :: stages).all (admits p student · c.mentor)) =
        (cs.filter fun c => admits p student s c.mentor).filter
          fun c => stages.all (admits p student · c.mentor) := by
      simp [List.filter_filter, Bool.and_comm]
    rw [hsplit, apply]
    split
    · -- nothing is left, so later stages have nothing to filter
      rename_i h
      rw [List.isEmpty_iff.mp h, List.filter_nil]
    · exact ih _

theorem survivors_ofPool (pool : List Mentor) :
    (ofPool p student pool).survivors =
      (Candidate.ofPool pool).filter fun c => isEligible p student c.mentor :=
  survivors_apply p student Stage.eligibility (Candidate.ofPool pool)

@[simp] theorem mem_survivors_ofPool {c : Candidate} {pool : List Mentor} :
    c ∈ (ofPool p student pool).survivors ↔
      pool[c.index]? = some c.mentor ∧ isEligible p student c.mentor = true := by
  simp [survivors_ofPool]

/-- A screening that ends early has no survivors, and one that has applied a stage ends early if it
has none. -/
theorem exhaustedAt_apply_eq_none_iff {stages : List Stage} (hs : stages ≠ [])
    (cs : List Candidate) :
    (apply p student stages cs).exhaustedAt = none ↔
      (apply p student stages cs).survivors ≠ [] := by
  induction stages generalizing cs with
  | nil => exact absurd rfl hs
  | cons s stages ih =>
    simp only [apply]
    split
    · simp
    · rename_i h
      rw [List.isEmpty_iff] at h
      cases stages with
      | nil => simpa [apply] using h
      | cons s' stages => exact ih (List.cons_ne_nil _ _) _

theorem survivors_ofPool_eq_nil_iff (pool : List Mentor) :
    (ofPool p student pool).survivors = [] ↔ ∀ m ∈ pool, isEligible p student m = false := by
  rw [← List.map_eq_nil_iff (f := (·.mentor)), survivors_ofPool,
    Candidate.map_mentor_filter_ofPool, List.filter_eq_nil_iff]
  simp

theorem exhaustedAt_ofPool_eq_none_iff (pool : List Mentor) :
    (ofPool p student pool).exhaustedAt = none ↔ ∃ m ∈ pool, isEligible p student m = true := by
  have hs : Stage.eligibility ≠ [] := List.cons_ne_nil _ _
  rw [ofPool, exhaustedAt_apply_eq_none_iff p student hs, ← ofPool, Ne,
    survivors_ofPool_eq_nil_iff]
  simp

/-- The stage that exhausts a screening is one of those applied. -/
theorem mem_of_exhaustedAt_apply {stages : List Stage} {cs : List Candidate} {s : Stage}
    (h : (apply p student stages cs).exhaustedAt = some s) : s ∈ stages := by
  induction stages generalizing cs with
  | nil => simp [apply] at h
  | cons t stages ih =>
    simp only [apply] at h
    split at h
    · simp only [Option.some.injEq] at h
      simp [h]
    · exact List.mem_cons_of_mem _ (ih h)

theorem length_counts_apply {stages : List Stage} {cs : List Candidate}
    (h : (apply p student stages cs).exhaustedAt = none) :
    (apply p student stages cs).counts.length = stages.length := by
  induction stages generalizing cs with
  | nil => rfl
  | cons s stages ih =>
    simp only [apply] at h ⊢
    split at h
    · contradiction
    · rename_i hne
      simp [hne, ih h]

end Screening

/-! ### The trace of the same stages -/

namespace Trace

@[simp] theorem length_build (stages : List Stage) (ms : List Mentor) :
    (build p student stages ms).length = stages.length := by
  induction stages generalizing ms with
  | nil => rfl
  | cons s stages ih => simp [build, ih]

/-- Later stages start from the mentors that all earlier ones admit. -/
theorem build_append (stages more : List Stage) (ms : List Mentor) :
    build p student (stages ++ more) ms =
      build p student stages ms ++
        build p student more (ms.filter fun m => stages.all (admits p student · m)) := by
  induction stages generalizing ms with
  | nil => simp [build]
  | cons s stages ih =>
    simp [build, ih, List.filter_filter, Bool.and_comm]

@[simp] theorem firstFailing?_append (t u : List TraceRecord) :
    firstFailing? (t ++ u) = (firstFailing? t).or (firstFailing? u) := by
  simp only [firstFailing?, List.find?_append]
  cases t.find? (·.after == 0) <;> rfl

/-- The trace blames the stage that exhausts the screening. -/
theorem firstFailing?_build (stages : List Stage) (cs : List Candidate) :
    firstFailing? (build p student stages (cs.map (·.mentor))) =
      (Screening.apply p student stages cs).exhaustedAt := by
  induction stages generalizing cs with
  | nil => rfl
  | cons s stages ih =>
    simp only [build, Screening.apply, List.filter_map]
    split
    · rename_i h
      simp_all [firstFailing?, Function.comp_def]
    · rename_i h
      rw [← ih]
      simp_all [firstFailing?, Function.comp_def]

/-- The counts of a screening are the first of those in the trace. -/
theorem isPrefix_counts_apply (stages : List Stage) (cs : List Candidate) :
    (Screening.apply p student stages cs).counts <+:
      counts (build p student stages (cs.map (·.mentor))) := by
  induction stages generalizing cs with
  | nil => exact List.prefix_rfl
  | cons s stages ih =>
    simp only [build, Screening.apply, counts, List.map_cons, List.filter_map, List.length_map]
    split
    · exact List.prefix_cons_inj _ |>.mpr (List.nil_prefix)
    · exact List.prefix_cons_inj _ |>.mpr (ih _)

/-- The trace of a pool: the eligibility stages, and the capacity gate applied to the mentors that
they leave. -/
theorem ofPool_eq (pool : List Mentor) :
    ofPool p student pool =
      build p student Stage.eligibility ((Candidate.ofPool pool).map (·.mentor)) ++
        build p student [.capacityGate]
          ((Screening.ofPool p student pool).survivors.map (·.mentor)) := by
  rw [ofPool, Stage.canonical, build_append, Screening.survivors_ofPool,
    Candidate.map_mentor_ofPool, Candidate.map_mentor_filter_ofPool]
  rfl

/-- The record of the capacity gate counts the survivors with a free seat. -/
theorem build_gate (cs : List Candidate) :
    build p student [.capacityGate] (cs.map (·.mentor)) =
      [⟨student.id, .capacityGate, p.stageColumn .capacityGate, .greaterThan, "0", cs.length,
        (Candidate.withSeats cs).length, 0 < (Candidate.withSeats cs).length⟩] := by
  simp [build, admits, expected, Stage.comparison, Stage.isCapacityGate, Candidate.withSeats,
    List.filter_map, Function.comp_def]

theorem firstFailing?_gate (cs : List Candidate) :
    firstFailing? (build p student [.capacityGate] (cs.map (·.mentor))) =
      if Candidate.withSeats cs = [] then some .capacityGate else none := by
  rw [build_gate]
  split <;> simp_all [firstFailing?]

theorem firstFailing?_ofPool (pool : List Mentor) :
    firstFailing? (ofPool p student pool) =
      (Screening.ofPool p student pool).exhaustedAt.or
        (if Candidate.withSeats (Screening.ofPool p student pool).survivors = [] then
          some .capacityGate else none) := by
  rw [ofPool_eq, firstFailing?_append, firstFailing?_build, firstFailing?_gate]
  rfl

end Trace

end Mentorship.Matching
