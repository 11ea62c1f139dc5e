import Mentorship.Matching.Batch
import Mentorship.Proofs.Matching.Screening

/-! Decisions: a student fails at the stage that exhausts the screening, or at the capacity gate if
nobody left has a free seat, and else gets an eligible mentor with a free seat. The trace of the
same pool tells the same story, although it is built apart and never stops early. -/

namespace Mentorship.Matching

variable (p : Policy) (student : Student) (pool : List Mentor)

/-- The eligible candidates of a pool that have a free seat. -/
def openCandidates : List Candidate :=
  Candidate.withSeats (Screening.ofPool p student pool).survivors

@[simp] theorem mem_openCandidates {c : Candidate} :
    c ∈ openCandidates p student pool ↔
      pool[c.index]? = some c.mentor ∧ isEligible p student c.mentor = true ∧
        c.mentor.hasSeat = true := by
  simp [openCandidates, and_assoc]

theorem map_mentor_openCandidates :
    (openCandidates p student pool).map (·.mentor) =
      pool.filter fun m => isEligible p student m && m.hasSeat := by
  rw [openCandidates, Candidate.withSeats, Screening.survivors_ofPool, List.filter_filter,
    ← Candidate.map_mentor_filter_ofPool]
  simp only [Bool.and_comm]

/-- Nobody is open exactly if every eligible mentor of the pool is full. -/
theorem openCandidates_eq_nil_iff :
    openCandidates p student pool = [] ↔
      ∀ m ∈ pool, isEligible p student m = true → m.hasSeat = false := by
  constructor
  · intro h m hm he
    obtain ⟨i, hi⟩ := List.mem_iff_getElem?.mp hm
    have hc : (⟨i, m⟩ : Candidate) ∉ openCandidates p student pool := by simp [h]
    simpa [hi, he] using hc
  · intro h
    rw [List.eq_nil_iff_forall_not_mem]
    intro c hc
    obtain ⟨hi, he, hs⟩ := (mem_openCandidates p student pool).mp hc
    simp [h c.mentor (List.mem_of_getElem? hi) he] at hs

namespace Decision

section Outcomes
variable {p student pool}

theorem ofPool_of_exhausted {s : Stage}
    (h : (Screening.ofPool p student pool).exhaustedAt = some s) :
    ofPool p student pool = .failed .noMatch s := by
  simp only [ofPool, h]

variable (h : (Screening.ofPool p student pool).exhaustedAt = none)

include h in
theorem ofPool_of_full (hfull : openCandidates p student pool = []) :
    ofPool p student pool = .failed .full .capacityGate := by
  have hgate := List.isEmpty_iff.mpr hfull
  rw [openCandidates] at hgate
  simp only [ofPool, h, dif_pos hgate]

include h in
theorem ofPool_of_rank {w : Candidate} {others : List Candidate}
    (hrank : Ranking.rank p student (openCandidates p student pool) = w :: others) :
    ofPool p student pool = .selected w (others.length + 1) := by
  have hgate : ¬(openCandidates p student pool).isEmpty = true := by
    intro hfull
    rw [List.isEmpty_iff.mp hfull, Ranking.rank, List.mergeSort_nil] at hrank
    cases hrank
  rw [openCandidates] at hgate hrank
  simp only [ofPool, h, dif_neg hgate, hrank, List.head_cons, List.length_cons]

include h in
/-- The only open candidate is selected. -/
theorem ofPool_of_single {c : Candidate} (hopen : openCandidates p student pool = [c]) :
    ofPool p student pool = .selected c 1 := by
  have hrank : Ranking.rank p student (openCandidates p student pool) = [c] := by
    rw [hopen, Ranking.rank, List.mergeSort_singleton]
  exact ofPool_of_rank h hrank

end Outcomes

/-- The three ways in which a decision can end. -/
theorem ofPool_cases :
    (∃ s, (Screening.ofPool p student pool).exhaustedAt = some s ∧
      ofPool p student pool = .failed .noMatch s) ∨
    ((Screening.ofPool p student pool).exhaustedAt = none ∧ openCandidates p student pool = [] ∧
      ofPool p student pool = .failed .full .capacityGate) ∨
    (∃ w ∈ openCandidates p student pool,
      (Screening.ofPool p student pool).exhaustedAt = none ∧
      ofPool p student pool = .selected w (openCandidates p student pool).length) := by
  have hperm := Ranking.rank_perm p student (openCandidates p student pool)
  cases hend : (Screening.ofPool p student pool).exhaustedAt with
  | some s => exact .inl ⟨s, rfl, ofPool_of_exhausted hend⟩
  | none =>
    right
    cases hrank : Ranking.rank p student (openCandidates p student pool) with
    | nil =>
      rw [hrank] at hperm
      exact .inl ⟨rfl, hperm.symm.eq_nil, ofPool_of_full hend hperm.symm.eq_nil⟩
    | cons w others =>
      rw [hrank] at hperm
      refine .inr ⟨w, hperm.mem_iff.mp List.mem_cons_self, rfl, ?_⟩
      rw [← hperm.length_eq]
      exact ofPool_of_rank hend hrank

/-- A decision depends on how the screening ends and on the open candidates alone. -/
theorem ofPool_congr {pool' : List Mentor}
    (hend : (Screening.ofPool p student pool).exhaustedAt =
      (Screening.ofPool p student pool').exhaustedAt)
    (hopen : openCandidates p student pool = openCandidates p student pool') :
    ofPool p student pool = ofPool p student pool' := by
  rw [openCandidates, openCandidates] at hopen
  simp only [ofPool, hend, hopen]

/-! ### What a decision says about the pool -/

variable {p student pool}

theorem of_selected {w : Candidate} {n : Nat} (h : ofPool p student pool = .selected w n) :
    w ∈ openCandidates p student pool ∧ n = (openCandidates p student pool).length := by
  rcases ofPool_cases p student pool with ⟨s, -, hd⟩ | ⟨-, -, hd⟩ | ⟨v, hv, -, hd⟩ <;>
    rw [hd] at h <;> cases h
  exact ⟨hv, rfl⟩

/-- The mentor selected is ranked first. -/
theorem rank_of_selected {w : Candidate} {n : Nat} (h : ofPool p student pool = .selected w n) :
    ∃ others, Ranking.rank p student (openCandidates p student pool) = w :: others := by
  rcases ofPool_cases p student pool with ⟨s, -, hd⟩ | ⟨-, -, hd⟩ | ⟨v, hv, hend, -⟩
  · rw [hd] at h; cases h
  · rw [hd] at h; cases h
  · have hmem := (Ranking.rank_perm p student _).mem_iff.mpr hv
    obtain ⟨v', others, hrank⟩ := List.exists_cons_of_ne_nil (List.ne_nil_of_mem hmem)
    rw [ofPool_of_rank hend hrank, selected.injEq] at h
    exact ⟨others, by rw [hrank, h.1]⟩

/-- A student whom no stage exhausts and no mentor takes found all eligible mentors full. -/
theorem of_full {s : Stage} (h : ofPool p student pool = .failed .full s) :
    openCandidates p student pool = [] := by
  rcases ofPool_cases p student pool with ⟨t, -, hd⟩ | ⟨-, ho, -⟩ | ⟨v, -, -, hd⟩
  · rw [hd] at h; cases h
  · exact ho
  · rw [hd] at h; cases h

theorem of_noMatch {s : Stage} (h : ofPool p student pool = .failed .noMatch s) :
    ∀ m ∈ pool, isEligible p student m = false := by
  rcases ofPool_cases p student pool with ⟨t, ht, -⟩ | ⟨-, -, hd⟩ | ⟨v, -, -, hd⟩
  · have hne : ¬(Screening.ofPool p student pool).exhaustedAt = none := by simp [ht]
    rw [Screening.exhaustedAt_ofPool_eq_none_iff] at hne
    simpa using hne
  · rw [hd] at h; cases h
  · rw [hd] at h; cases h

/-- A student who fails has met no eligible mentor with a free seat. -/
theorem of_failed {f : Failure} {s : Stage} (h : ofPool p student pool = .failed f s) :
    ∀ m ∈ pool, isEligible p student m = true → m.hasSeat = false := by
  intro m hm he
  cases f with
  | noMatch => simp [of_noMatch h m hm] at he
  | full => exact (openCandidates_eq_nil_iff p student pool).mp (of_full h) m hm he

/-- A student has no match if a stage exhausts the screening. -/
theorem ofPool_eq_noMatch_iff {s : Stage} : ofPool p student pool = .failed .noMatch s ↔
    (Screening.ofPool p student pool).exhaustedAt = some s := by
  rcases ofPool_cases p student pool with ⟨t, ht, hd⟩ | ⟨hn, -, hd⟩ | ⟨w, -, hn, hd⟩
  · simp [ht, hd]
  · simp [hn, hd]
  · simp [hn, hd]

/-- A student finds all seats taken if there are matches but none with a free seat. -/
theorem ofPool_eq_full_iff : ofPool p student pool = .failed .full .capacityGate ↔
    (Screening.ofPool p student pool).exhaustedAt = none ∧ openCandidates p student pool = [] := by
  rcases ofPool_cases p student pool with ⟨t, ht, hd⟩ | ⟨hn, ho, hd⟩ | ⟨w, hw, hn, hd⟩
  · simp [ht, hd]
  · simp [hn, ho, hd]
  · simp [hn, List.ne_nil_of_mem hw, hd]

/-! ### Decision and trace -/

variable (p student pool)

/-- The stage at which a decision failed. -/
def failedAt? : Decision → Option Stage
  | selected .. => none
  | failed _ s => some s

/-- The trace blames the stage at which the decision failed, and none if it did not fail. -/
theorem firstFailing?_trace :
    Trace.firstFailing? (Trace.ofPool p student pool) = (ofPool p student pool).failedAt? := by
  rw [Trace.firstFailing?_ofPool, ← openCandidates]
  rcases ofPool_cases p student pool with ⟨s, hs, hd⟩ | ⟨hn, ho, hd⟩ | ⟨w, hw, hn, hd⟩
  · simp [hs, hd, failedAt?]
  · simp [hn, ho, hd, failedAt?]
  · simp [hn, List.ne_nil_of_mem hw, hd, failedAt?]

/-- Only the capacity gate fails a student for want of seats. -/
theorem failure_eq_full_iff {f : Failure} {s : Stage}
    (h : ofPool p student pool = .failed f s) : f = .full ↔ s = .capacityGate := by
  rcases ofPool_cases p student pool with ⟨t, ht, hd⟩ | ⟨-, -, hd⟩ | ⟨w, -, -, hd⟩ <;>
    rw [hd] at h <;> cases h
  · have hmem := Screening.mem_of_exhaustedAt_apply p student ht
    constructor
    · intro hf; cases hf
    · rintro rfl; simp [Stage.eligibility] at hmem
  · exact ⟨fun _ => rfl, fun _ => rfl⟩

/-- The eighth record of a trace counts the open candidates. -/
theorem after_getElem?_seven :
    (Trace.ofPool p student pool)[7]?.map (·.after) =
      some (openCandidates p student pool).length := by
  rw [Trace.ofPool_eq, Trace.build_gate, List.getElem?_append_right (by simp [Stage.eligibility])]
  simp [Stage.eligibility, openCandidates]

theorem isPrefix_counts_screening :
    (Screening.ofPool p student pool).counts <+: Trace.counts (Trace.ofPool p student pool) := by
  rw [Trace.ofPool_eq, Trace.counts, List.map_append]
  exact (Trace.isPrefix_counts_apply p student _ _).trans (List.prefix_append _ _)

/-- Screening, decision and trace of one pool agree: the counts of the screening are the first of
those in the trace, all seven if no stage exhausts it; a decision fails exactly where the trace
finds its first empty stage, for want of seats exactly at the capacity gate; and it selects exactly
if no stage is empty, among as many candidates as pass the gate, which the eighth record counts. -/
theorem agrees_with_trace :
    (Screening.ofPool p student pool).counts <+: Trace.counts (Trace.ofPool p student pool) ∧
    ((Screening.ofPool p student pool).exhaustedAt = none →
      (Screening.ofPool p student pool).counts.length = 7) ∧
    (∀ s, (∃ f, ofPool p student pool = .failed f s) ↔
      Trace.firstFailing? (Trace.ofPool p student pool) = some s) ∧
    (∀ f s, ofPool p student pool = .failed f s → (f = .full ↔ s = .capacityGate)) ∧
    ((∃ w n, ofPool p student pool = .selected w n) ↔
      Trace.firstFailing? (Trace.ofPool p student pool) = none) ∧
    (∀ w n, ofPool p student pool = .selected w n →
      (Trace.ofPool p student pool)[7]?.map (·.after) = some n ∧
      n = (Candidate.withSeats (Screening.ofPool p student pool).survivors).length) := by
  refine ⟨isPrefix_counts_screening p student pool, Screening.length_counts_apply p student,
    fun s => ?_, fun f s => failure_eq_full_iff p student pool, ?_, fun w n h => ?_⟩
  · rw [firstFailing?_trace]
    cases ofPool p student pool <;> simp [failedAt?]
  · rw [firstFailing?_trace]
    cases ofPool p student pool <;> simp [failedAt?]
  · obtain ⟨-, rfl⟩ := of_selected h
    exact ⟨after_getElem?_seven p student pool, rfl⟩

end Decision

end Mentorship.Matching
