import Mathlib.Algebra.BigOperators.Group.List.Basic
import Mathlib.Data.List.Nodup
import Mentorship.Proofs.Arrangement
import Mentorship.Proofs.Matching.RankOrder
import Mentorship.Proofs.Matching.SeatAccounts
import Mentorship.Proofs.Policy.Checked

/-! The order of the pool does not matter. Two pools with the same mentors in different orders lead
to the same turn of a student and, after it, again to pools with the same mentors: places differ in
every step, but a decision depends on them only where mentors tie, and mentors with different keys
never do. Hence a batch on a rearranged pool is the same batch with its final pool rearranged. -/

namespace Mentorship.Matching

open Arrangement (arrange)

variable (p : Policy) (student : Student) {pool pool' : List Mentor}

/-! ### The same mentors in another order -/

theorem Trace.build_of_perm (stages : List Stage) {ms ms' : List Mentor} (h : ms.Perm ms') :
    build p student stages ms = build p student stages ms' := by
  induction stages generalizing ms ms' with
  | nil => rfl
  | cons s stages ih =>
    have hleft := h.filter (admits p student s)
    simp only [build, ih hleft, h.length_eq, hleft.length_eq]

theorem Screening.exhaustedAt_of_perm (h : pool.Perm pool') :
    (Screening.ofPool p student pool).exhaustedAt =
      (Screening.ofPool p student pool').exhaustedAt := by
  rw [ofPool, ofPool, ← Trace.firstFailing?_build, ← Trace.firstFailing?_build,
    Candidate.map_mentor_ofPool, Candidate.map_mentor_ofPool, Trace.build_of_perm p student _ h]

theorem openCandidates_of_perm (h : pool.Perm pool') :
    ((openCandidates p student pool).map (·.mentor)).Perm
      ((openCandidates p student pool').map (·.mentor)) := by
  rw [map_mentor_openCandidates, map_mentor_openCandidates]
  exact h.filter _

/-! ### One decision -/

namespace Decision

/-- Decisions that differ at most in the place of the mentor whom they select. -/
inductive Alike : Decision → Decision → Prop
  | selected (i j : Nat) (m : Mentor) (n : Nat) : Alike (.selected ⟨i, m⟩ n) (.selected ⟨j, m⟩ n)
  | failed (f : Failure) (s : Stage) : Alike (.failed f s) (.failed f s)

theorem Alike.placement?_eq {d d' : Decision} (h : Alike d d') :
    d.placement? student = d'.placement? student := by
  cases h <;> rfl

theorem Alike.verdict_eq {d d' : Decision} (h : Alike d d') (trace : List TraceRecord) :
    d.verdict p trace = d'.verdict p trace := by
  cases h <;> rfl

variable {p} (hrule : ∃ r ∈ p.rankingRules, r.kind = .minMentorId)
variable (hkeys : (pool.map (·.sortKey)).Nodup) (h : pool.Perm pool')

include hrule hkeys in
/-- Mentors of a pool with different keys do not tie. -/
theorem eq_of_order_eq {a b : Mentor} (ha : a ∈ pool) (hb : b ∈ pool)
    (htie : Ranking.order p student a b = .eq) : a = b := by
  obtain ⟨r, hr, hkind⟩ := hrule
  have hlast := (Ranking.order_eq_eq_iff p student).mp htie r hr
  rw [hkind, Ranking.compareBy_minMentorId_eq_eq_iff] at hlast
  exact List.inj_on_of_nodup_map hkeys ha hb hlast.2

include hrule hkeys h in
theorem rank_openCandidates_of_perm :
    (Ranking.rank p student (openCandidates p student pool)).map (·.mentor) =
      (Ranking.rank p student (openCandidates p student pool')).map (·.mentor) := by
  refine Ranking.map_mentor_rank_of_perm (openCandidates_of_perm p student h) ?_
  have hsub : ∀ m ∈ (openCandidates p student pool).map (·.mentor), m ∈ pool := by
    rw [map_mentor_openCandidates]
    exact fun m hm => List.mem_of_mem_filter hm
  exact fun a ha b hb => eq_of_order_eq student hrule hkeys (hsub a ha) (hsub b hb)

include hrule hkeys h in
theorem alike_of_perm : Alike (ofPool p student pool) (ofPool p student pool') := by
  have hrank := rank_openCandidates_of_perm student hrule hkeys h
  have hend := Screening.exhaustedAt_of_perm p student h
  rcases ofPool_cases p student pool with ⟨s, hs, hd⟩ | ⟨hn, hnone, hd⟩ | ⟨w, hw, hn, hd⟩
  · rw [hd, ofPool_of_exhausted (hend ▸ hs)]
    exact .failed .noMatch s
  · have hnone' := openCandidates_of_perm p student h
    rw [hnone, List.map_nil] at hnone'
    rw [hd, ofPool_of_full (hend ▸ hn) (List.map_eq_nil_iff.mp hnone'.nil_eq.symm)]
    exact .failed .full .capacityGate
  · obtain ⟨others, hw⟩ := rank_of_selected hd
    rw [hw, List.map_cons] at hrank
    obtain ⟨w', others', hw', hmentor, hothers⟩ := List.map_eq_cons_iff.mp hrank.symm
    have hlength : others'.length = others.length := by
      simpa using congrArg List.length hothers
    rw [ofPool_of_rank hn hw, ofPool_of_rank (hend ▸ hn) hw', hlength]
    obtain ⟨i, m⟩ := w
    obtain ⟨j, m'⟩ := w'
    obtain rfl : m' = m := hmentor
    exact .selected i j m' _

end Decision

/-! ### All turns -/

section Turns
variable {p} (hrule : ∃ r ∈ p.rankingRules, r.kind = .minMentorId)

include hrule in
theorem Turn.ofPool_of_perm (row : Nat) (hkeys : (pool.map (·.sortKey)).Nodup)
    (h : pool.Perm pool') :
    Turn.ofPool p row student pool = Turn.ofPool p row student pool' := by
  have halike := Decision.alike_of_perm student hrule hkeys h
  have htrace : Trace.ofPool p student pool = Trace.ofPool p student pool' :=
    Trace.build_of_perm p student _ h
  simp only [Turn.ofPool, htrace, halike.placement?_eq, halike.verdict_eq]

theorem nodup_id_of_nodup_sortKey (hkeys : (pool.map (·.sortKey)).Nodup) :
    (pool.map (·.id)).Nodup := by
  have hkey : Mentor.sortKey = NaturalKey.ofText ∘ Mentor.id := rfl
  rw [hkey, ← List.map_map] at hkeys
  exact hkeys.of_map

theorem map_sortKey_settle (p : Policy) (pool : List Mentor) :
    ((Decision.ofPool p student pool).settle pool).map (·.sortKey) = pool.map (·.sortKey) := by
  have hkey : Mentor.sortKey = NaturalKey.ofText ∘ Mentor.id := rfl
  rw [hkey, ← List.map_map, ← List.map_map, Decision.map_id_settle]

namespace Batch

include hrule in
/-- Pools with the same mentors still have the same mentors after a student. -/
theorem settle_of_perm (hkeys : (pool.map (·.sortKey)).Nodup) (h : pool.Perm pool') :
    ((Decision.ofPool p student pool).settle pool).Perm
      ((Decision.ofPool p student pool').settle pool') := by
  have hids := nodup_id_of_nodup_sortKey hkeys
  have hone := poolAfter_eq_map p 0 [student] hids
  have hone' := poolAfter_eq_map p 0 [student] ((h.map _).nodup_iff.mp hids)
  simp only [turns, ← Turn.ofPool_of_perm student hrule 0 hkeys h] at hone hone'
  rw [poolAfter_cons, poolAfter_nil] at hone hone'
  rw [hone, hone']
  exact h.map _

include hrule in
theorem turns_of_perm (row : Nat) (students : List Student)
    (hkeys : (pool.map (·.sortKey)).Nodup) (h : pool.Perm pool') :
    turns p row students pool = turns p row students pool' := by
  induction students generalizing row pool pool' with
  | nil => rfl
  | cons student students ih =>
    have hkeys' := (map_sortKey_settle student p pool).symm ▸ hkeys
    rw [turns, turns, Turn.ofPool_of_perm student hrule row hkeys h,
      ih (row + 1) hkeys' (settle_of_perm student hrule hkeys h)]

/-! ### Rearranged pools -/

theorem freeSeats_of_perm (h : pool.Perm pool') : freeSeats pool = freeSeats pool' := by
  rw [freeSeats_eq_sum, freeSeats_eq_sum]
  exact (h.map _).sum_eq

/-- The totals of a batch do not tell in which order its final pool is. -/
theorem outcome_arrange (ts : List Turn) {places : List Nat}
    (hplaces : places.Perm (List.range pool.length)) :
    outcome p ts (arrange places pool) =
      { outcome p ts pool with pool := arrange places pool } := by
  have hperm := Arrangement.arrange_perm hplaces
  simp only [outcome, hperm.length_eq, freeSeats_of_perm hperm]

include hrule in
theorem poolAfter_arrange (students : List Student) (hkeys : (pool.map (·.sortKey)).Nodup)
    {places : List Nat} (hplaces : places.Perm (List.range pool.length)) :
    poolAfter p students (arrange places pool) = arrange places (poolAfter p students pool) := by
  have hperm := Arrangement.arrange_perm hplaces
  have hids := nodup_id_of_nodup_sortKey hkeys
  rw [poolAfter_eq_map p 0 students hids,
    poolAfter_eq_map p 0 students ((hperm.map _).nodup_iff.mpr hids),
    turns_of_perm hrule 0 students hkeys hperm.symm, Arrangement.arrange_map]

/-- A batch on a rearranged pool is the batch on the pool itself, down to the trace and the totals,
with its final pool rearranged in the same way. -/
theorem run_arrange {mode : Policy.Mode} {d : Policy.Draft} (hp : Policy.check mode d = .ok p)
    (students : List Student) (hkeys : (pool.map (·.sortKey)).Nodup) {places : List Nat}
    (hplaces : places.Perm (List.range pool.length)) :
    ∃ out, run p students pool = .ok out ∧
      run p students (arrange places pool) = .ok { out with pool := arrange places out.pool } := by
  have hrule := Policy.exists_minMentorId_of_check hp
  have hlength : (poolAfter p students pool).length = pool.length := by
    rw [poolAfter_eq_map p 0 students (nodup_id_of_nodup_sortKey hkeys), List.length_map]
  refine ⟨_, run_eq p students pool, ?_⟩
  rw [run_eq, ← turns_of_perm hrule 0 students hkeys (Arrangement.arrange_perm hplaces).symm,
    poolAfter_arrange hrule students hkeys hplaces, outcome_arrange _ (hlength.symm ▸ hplaces)]
  rfl

/-- Two mentors who differ in nothing but their identifiers, the greater one first. -/
def twins : List Mentor :=
  ["EMP-10", "EMP-2"].map fun id => .fresh id (.ofStages fun _ => .int 1) 1

def applicant : Student := ⟨"1", .ofStages fun _ => .int 1⟩

/-- Mentors who tie by every rule but the last can stand in either order. -/
theorem run_arrange_twins :
    Policy.check .migrate (.plain .deterministic) = .ok (Policy.plain .deterministic) ∧
    (twins.map (·.sortKey)).Nodup ∧ [1, 0].Perm (List.range twins.length) ∧
    ∃ out, run (Policy.plain .deterministic) [applicant] twins = .ok out ∧
      run (Policy.plain .deterministic) [applicant] twins.reverse =
        .ok { out with pool := arrange [1, 0] out.pool } := by
  have hkeys : (twins.map (·.sortKey)).Nodup := by decide +kernel
  have hplaces : [1, 0].Perm (List.range twins.length) := by decide
  have hcheck := Policy.check_plain .deterministic
  obtain ⟨out, hout, hout'⟩ := run_arrange hcheck [applicant] hkeys hplaces
  exact ⟨hcheck, hkeys, hplaces, out, hout, hout'⟩

end Batch

end Turns

end Mentorship.Matching
