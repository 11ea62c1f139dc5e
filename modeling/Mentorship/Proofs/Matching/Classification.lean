import Mentorship.Proofs.Matching.Maximality
import Mentorship.Proofs.Matching.Reports
import Mentorship.Proofs.Matching.View

/-! How failures are classified. Seats taken change no profile, so whether a student has a match at
all, and at which stage not, can be told from the pool that the batch starts with. Free seats of a
profile only become fewer, so whoever finds no seat speaks for all who come later with the same
profile. -/

namespace Mentorship.Matching

/-! ### Students with one profile -/

section Profiles
variable (p : Policy) {s t : Student}

theorem admits_of_profile_eq (h : s.profile = t.profile) : admits p s = admits p t := by
  funext stage m
  cases stage <;> simp only [admits, schoolIsWildcard, h]

theorem isEligible_of_profile_eq (h : s.profile = t.profile) : isEligible p s = isEligible p t := by
  funext m
  rw [isEligible, isEligible, admits_of_profile_eq p h]

theorem Screening.apply_of_profile_eq (h : s.profile = t.profile) (stages : List Stage)
    (cs : List Candidate) : apply p s stages cs = apply p t stages cs := by
  induction stages generalizing cs with
  | nil => rfl
  | cons stage stages ih => simp only [apply, admits_of_profile_eq p h, ih]

end Profiles

/-! ### What decides a failure -/

namespace Turn

variable (p : Policy) (row : Nat) (student : Student) (pool : List Mentor)

/-- The failure that an entry reports is that of the decision. -/
theorem failure_fields_iff {f : Failure} {s : Stage} :
    (ofPool p row student pool).entry.fields.failure = some f ∧
        (ofPool p row student pool).entry.fields.failedStage = some s ↔
      Decision.ofPool p student pool = .failed f s := by
  cases hd : Decision.ofPool p student pool <;>
    simp [ofPool, hd, Decision.verdict, LogEntry.fields]

theorem failure_fields_eq_full_iff :
    (ofPool p row student pool).entry.fields.failure = some .full ↔
      Decision.ofPool p student pool = .failed .full .capacityGate := by
  rcases Decision.ofPool_cases p student pool with ⟨t, -, hd⟩ | ⟨-, -, hd⟩ | ⟨w, -, -, hd⟩ <;>
    simp [ofPool, hd, Decision.verdict, LogEntry.fields]

end Turn

/-! ### Later pools -/

namespace Batch

variable (p : Policy)

theorem map_profile_poolAfter (students : List Student) (pool : List Mentor) :
    (poolAfter p students pool).map (·.profile) = pool.map (·.profile) := by
  apply List.ext_getElem?
  intro i
  rw [List.getElem?_map, List.getElem?_map, getElem?_poolAfter, Option.map_map]
  rfl

/-- Whether and where a student has no match does not depend on the students before. -/
theorem noMatch_poolAfter_iff (students : List Student) (student : Student) (pool : List Mentor)
    {s : Stage} :
    Decision.ofPool p student (poolAfter p students pool) = .failed .noMatch s ↔
      Decision.ofPool p student pool = .failed .noMatch s := by
  rw [Decision.ofPool_eq_noMatch_iff, Decision.ofPool_eq_noMatch_iff,
    Screening.exhaustedAt_of_profiles (map_profile_poolAfter p students pool)]

/-- Nor do the counts of the eligibility stages. -/
theorem take_counts_poolAfter (students : List Student) (student : Student) (pool : List Mentor) :
    (Trace.counts (Trace.ofPool p student (poolAfter p students pool))).take 7 =
      (Trace.counts (Trace.ofPool p student pool)).take 7 := by
  have hgate : Stage.capacityGate ∉ Stage.eligibility := by decide
  have htake (ms : List Mentor) : (Trace.ofPool p student ms).take 7 =
      Trace.build p student Stage.eligibility ms := by
    rw [Trace.ofPool_eq, Candidate.map_mentor_ofPool]
    exact List.take_left' (Trace.length_build p student Stage.eligibility ms)
  rw [Trace.counts, Trace.counts, ← List.map_take, ← List.map_take, htake, htake,
    Trace.build_of_profiles hgate (map_profile_poolAfter p students pool)]

/-- Whoever finds all seats taken speaks for those with the same profile who come later. -/
theorem full_poolAfter {s t : Student} {pool : List Mentor} (hprofile : s.profile = t.profile)
    (h : Decision.ofPool p s pool = .failed .full .capacityGate) (later : List Student) :
    Decision.ofPool p t (poolAfter p later pool) = .failed .full .capacityGate := by
  obtain ⟨hmatch, -⟩ := Decision.ofPool_eq_full_iff.mp h
  rw [Decision.ofPool_eq_full_iff]
  constructor
  · rw [Screening.exhaustedAt_of_profiles (map_profile_poolAfter p later pool), Screening.ofPool,
      ← Screening.apply_of_profile_eq p hprofile]
    exact hmatch
  · rw [openCandidates_eq_nil_iff]
    intro m hm heligible
    rw [← isEligible_of_profile_eq p hprofile] at heligible
    have hnone := remaining_nonpos_of_failed h later m hm heligible
    rw [Bool.eq_false_iff, Ne, Mentor.hasSeat_iff]
    omega

/-- The log of a batch tells failures apart by the pool that the batch starts with. A student is
logged without a match at a stage exactly if the decision on the starting pool fails there, whoever
comes before or after, and the counts of the seven eligibility stages are those of the starting
pool. Once a student is logged as finding all seats taken, so are all later ones with an equal
profile. -/
theorem run_classified (students : List Student) (pool : List Mentor) :
    ∃ out, run p students pool = .ok out ∧
      (∀ (i : Nat) (student : Student), students[i]? = some student →
        ∃ e : LogEntry, out.log[i]? = some e ∧
          (∀ s, e.fields.failure = some .noMatch ∧ e.fields.failedStage = some s ↔
            Decision.ofPool p student pool = .failed .noMatch s) ∧
          e.fields.counts.take 7 = (Trace.counts (Trace.ofPool p student pool)).take 7) ∧
      ∀ (i j : Nat) (s t : Student) (e e' : LogEntry), i < j →
        students[i]? = some s → students[j]? = some t → s.profile = t.profile →
        out.log[i]? = some e → out.log[j]? = some e' →
        e.fields.failure = some .full → e'.fields.failure = some .full := by
  refine ⟨_, run_eq p students pool, fun i student hi => ?_,
    fun i j s t e e' hij hi hj hprofile he he' hfull => ?_⟩
  · have hentry := getElem?_log p students pool i
    rw [hi, Option.map_some] at hentry
    refine ⟨_, hentry, fun s => ?_, ?_⟩
    · rw [Turn.failure_fields_iff, noMatch_poolAfter_iff]
    · rw [LogEntry.counts_fields]
      exact take_counts_poolAfter p (students.take i) student pool
  · have hentry := getElem?_log p students pool i
    have hentry' := getElem?_log p students pool j
    rw [hi, Option.map_some] at hentry
    rw [hj, Option.map_some] at hentry'
    obtain rfl := Option.some.inj (he.symm.trans hentry)
    obtain rfl := Option.some.inj (he'.symm.trans hentry')
    rw [Turn.failure_fields_eq_full_iff] at hfull ⊢
    -- the later pool is what the students in between leave of the earlier one
    have hlater := poolAfter_drop_take p (students.take j) pool i
    rw [List.take_take, Nat.min_eq_left (Nat.le_of_lt hij)] at hlater
    rw [← hlater]
    exact full_poolAfter p hprofile hfull ((students.take j).drop i)

end Batch

end Mentorship.Matching
