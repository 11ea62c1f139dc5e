import Mathlib.Data.String.Basic
import Mentorship.Proofs.Matching.RankOrder
import Mentorship.Proofs.StableSort

/-! What a decision means, told without stages in turn and without sorting. A rule favours one
mentor over another by a value of theirs, and a mentor precedes another if the first rule that tells
the two apart favours the former. The mentor selected is eligible, has a free seat and is preceded
by no other such mentor; of those whom no rule tells apart it is the one who stands first in the
pool. -/

namespace Mentorship.Matching

open Policy (Fairness RuleKind Rule)
open Std (OrientedCmp)

/-! ### Survivors by their places -/

namespace Candidate

@[simp] theorem map_index_ofPool (pool : List Mentor) :
    (ofPool pool).map (·.index) = List.range pool.length := by
  rw [ofPool, List.map_map, List.range_eq_range']
  exact List.zipIdx_map_snd 0 pool

theorem pairwise_ofPool (pool : List Mentor) :
    (ofPool pool).Pairwise fun c d => c.index < d.index := by
  rw [ofPool, List.pairwise_map]
  exact StableSort.pairwise_zipIdx pool

end Candidate

/-- The survivors of a screening are the places of the eligible mentors, in ascending order. -/
theorem Screening.map_index_survivors (p : Policy) (student : Student) (pool : List Mentor) :
    (ofPool p student pool).survivors.map (·.index) =
      (List.range pool.length).filter fun i => pool[i]?.any (isEligible p student) := by
  rw [survivors_ofPool, ← Candidate.map_index_ofPool, List.filter_map]
  congr 1
  apply List.filter_congr
  intro c hc
  simp [Candidate.mem_ofPool.mp hc]

/-! ### The order of the rules -/

namespace Ranking

/-- Whether a rule favours a mentor over another: for fewer used seats by size, for more free seats,
for fewer new allocations, or for a smaller hash and, where hashes do not differ, a smaller key. -/
def Favours (f : Fairness) (student : Student) (k : RuleKind) (a b : Mentor) : Prop :=
  match k with
  | .minOccupancyRatio => a.load < b.load
  | .maxRemainingCapacity => b.remaining < a.remaining
  | .minAllocationsNew => a.allocationsNew < b.allocationsNew
  | .minMentorId =>
    digest? f student a < digest? f student b ∨
      digest? f student a = digest? f student b ∧ compare a.sortKey b.sortKey = .lt

/-- Whether the first rule that tells two mentors apart favours the one over the other. -/
def Precedes (p : Policy) (student : Student) (a b : Mentor) : Prop :=
  ∃ before r after, p.rankingRules = before ++ r :: after ∧
    (∀ q ∈ before, ¬Favours p.fairness student q.kind a b ∧
      ¬Favours p.fairness student q.kind b a) ∧
    Favours p.fairness student r.kind a b

section Rules
variable (f : Fairness) (student : Student) {a b : Mentor}

theorem compareDigest_eq_lt_iff :
    compareDigest f student a b = .lt ↔ digest? f student a < digest? f student b := by
  cases f <;> simp [compareDigest, digest?, token?, compare_lt_iff_lt]

theorem compareBy_eq_lt_iff (k : RuleKind) :
    compareBy f student k a b = .lt ↔ Favours f student k a b := by
  cases k with
  | minOccupancyRatio =>
    rw [compareBy, Mentor.compareOccupancy_eq, compareOn, compare_lt_iff_lt, Favours]
  | maxRemainingCapacity => rw [compareBy, compare_lt_iff_lt, Favours]
  | minAllocationsNew => rw [compareBy, compare_lt_iff_lt, Favours]
  | minMentorId =>
    rw [compareBy, Ordering.then_eq_lt, compareDigest_eq_lt_iff, compareDigest_eq_eq_iff, Favours]

theorem compareBy_eq_eq_iff (k : RuleKind) :
    compareBy f student k a b = .eq ↔
      ¬Favours f student k a b ∧ ¬Favours f student k b a := by
  have hswap : compareBy f student k b a = (compareBy f student k a b).swap :=
    OrientedCmp.eq_swap
  rw [← compareBy_eq_lt_iff, ← compareBy_eq_lt_iff, hswap]
  cases compareBy f student k a b <;> simp

/-- Rules one after another favour as the first of them that does not tie. -/
theorem foldr_rules_eq_lt_iff (rules : List Rule) :
    rules.foldr (fun r rest => (compareBy f student r.kind a b).then rest) .eq = .lt ↔
      ∃ before r after, rules = before ++ r :: after ∧
        (∀ q ∈ before, ¬Favours f student q.kind a b ∧ ¬Favours f student q.kind b a) ∧
        Favours f student r.kind a b := by
  induction rules with
  | nil => simp
  | cons r rules ih =>
    rw [List.foldr_cons, Ordering.then_eq_lt, ih, compareBy_eq_lt_iff, compareBy_eq_eq_iff]
    constructor
    · rintro (hfirst | ⟨htie, before, q, after, rfl, hbefore, hq⟩)
      · exact ⟨[], r, rules, rfl, by simp, hfirst⟩
      · exact ⟨r :: before, q, after, rfl, List.forall_mem_cons.mpr ⟨htie, hbefore⟩, hq⟩
    · rintro ⟨before, q, after, hrules, hbefore, hq⟩
      cases before with
      | nil =>
        obtain ⟨rfl, rfl⟩ := List.cons.inj hrules
        exact .inl hq
      | cons s before =>
        obtain ⟨rfl, rfl⟩ := List.cons.inj hrules
        obtain ⟨htie, hbefore⟩ := List.forall_mem_cons.mp hbefore
        exact .inr ⟨htie, before, q, after, rfl, hbefore, hq⟩

end Rules

theorem order_eq_lt_iff (p : Policy) (student : Student) {a b : Mentor} :
    order p student a b = .lt ↔ Precedes p student a b :=
  foldr_rules_eq_lt_iff p.fairness student p.rankingRules

/-- A mentor is ranked no later than another exactly if the other does not precede. -/
theorem isLE_order_iff (p : Policy) (student : Student) {a b : Mentor} :
    (order p student a b).isLE = true ↔ ¬Precedes p student b a := by
  have hswap : order p student b a = (order p student a b).swap := OrientedCmp.eq_swap
  rw [← order_eq_lt_iff, hswap]
  cases order p student a b <;> simp

end Ranking

/-! ### The mentor selected -/

section Best
variable (p : Policy) (student : Student) (pool : List Mentor)

/-- An eligible mentor of a pool who has a free seat, with the place. -/
structure IsOpen (c : Candidate) : Prop where
  getElem? : pool[c.index]? = some c.mentor
  isEligible : isEligible p student c.mentor = true
  remaining_pos : 0 < c.mentor.remaining

/-- The open mentor whom no other precedes, the first in the pool of those who tie. -/
structure IsBest (w : Candidate) : Prop where
  isOpen : IsOpen p student pool w
  not_precedes : ∀ c, IsOpen p student pool c → ¬Ranking.Precedes p student c.mentor w.mentor
  index_le : ∀ c, IsOpen p student pool c → ¬Ranking.Precedes p student w.mentor c.mentor →
    w.index ≤ c.index

/-- Among those who tie, candidates are ranked by their places. -/
theorem pairwise_rank_openCandidates :
    (Ranking.rank p student (openCandidates p student pool)).Pairwise fun c d =>
      (Ranking.order p student c.mentor d.mentor).isLE = true ∧
        ((Ranking.order p student d.mentor c.mentor).isLE = true → c.index < d.index) := by
  apply (Ranking.isSorting_rank p student _).pairwise_of_pairwise
  rw [openCandidates, Candidate.withSeats, Screening.survivors_ofPool]
  exact ((Candidate.pairwise_ofPool pool).filter _).filter _

variable {p student pool} {v w c : Candidate} {n : Nat}

theorem mem_openCandidates_iff : c ∈ openCandidates p student pool ↔ IsOpen p student pool c := by
  rw [mem_openCandidates, Mentor.hasSeat, decide_eq_true_eq]
  exact ⟨fun ⟨hget, he, hs⟩ => ⟨hget, he, hs⟩, fun h => ⟨h.getElem?, h.isEligible, h.remaining_pos⟩⟩

theorem IsBest.eq (hv : IsBest p student pool v) (hw : IsBest p student pool w) : v = w := by
  have hindex : v.index = w.index := Nat.le_antisymm
    (hv.index_le w hw.isOpen (hw.not_precedes v hv.isOpen))
    (hw.index_le v hv.isOpen (hv.not_precedes w hw.isOpen))
  have hmentor := hv.isOpen.getElem?
  rw [hindex, hw.isOpen.getElem?, Option.some.injEq] at hmentor
  obtain ⟨i, m⟩ := v
  obtain ⟨j, m'⟩ := w
  obtain rfl : i = j := hindex
  obtain rfl : m' = m := hmentor
  rfl

theorem length_openCandidates : (openCandidates p student pool).length =
    pool.countP fun m => isEligible p student m && m.hasSeat := by
  rw [List.countP_eq_length_filter, ← map_mentor_openCandidates, List.length_map]

theorem isBest_of_selected (h : Decision.ofPool p student pool = .selected w n) :
    IsBest p student pool w := by
  obtain ⟨others, hrank⟩ := Decision.rank_of_selected h
  have hpair := pairwise_rank_openCandidates p student pool
  rw [hrank, List.pairwise_cons] at hpair
  refine ⟨mem_openCandidates_iff.mp (Decision.of_selected h).1, fun c hc => ?_,
    fun c hc htie => ?_⟩
  · rw [← Ranking.isLE_order_iff]
    exact Ranking.isLE_of_selected h (mem_openCandidates_iff.mpr hc)
  · have hmem := (Ranking.rank_perm p student _).mem_iff.mpr (mem_openCandidates_iff.mpr hc)
    rw [hrank] at hmem
    rcases List.mem_cons.mp hmem with rfl | hothers
    · exact Nat.le_refl _
    · exact Nat.le_of_lt ((hpair.1 c hothers).2 ((Ranking.isLE_order_iff p student).mpr htie))

/-- Where some mentor is open, one is selected. -/
theorem exists_selected_of_isOpen (h : IsOpen p student pool c) :
    ∃ v, Decision.ofPool p student pool =
      .selected v (openCandidates p student pool).length := by
  rcases Decision.ofPool_cases p student pool with ⟨s, hs, -⟩ | ⟨-, hnone, -⟩ | ⟨v, -, -, hd⟩
  · have hmatch := (Screening.exhaustedAt_ofPool_eq_none_iff p student pool).mpr
      ⟨c.mentor, List.mem_of_getElem? h.getElem?, h.isEligible⟩
    rw [hs] at hmatch
    cases hmatch
  · have hmem := mem_openCandidates_iff.mpr h
    rw [hnone] at hmem
    cases hmem
  · exact ⟨v, hd⟩

variable (p student pool)

end Best

/-- A mentor overdrawn by more seats than fit in a word, so that the used seats wrap. -/
def wrapped : Mentor where
  id := "1"
  profile := .ofStages fun _ => .int 1
  remaining := 1
  initial := -9223372036854775808
  allocationsNew := 0

def unladen : Mentor :=
  .fresh "2" (.ofStages fun _ => .int 1) 1

end Mentorship.Matching
