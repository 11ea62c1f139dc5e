import Mathlib.Order.Compare
import Mentorship.Proofs.Matching.Decision
import Mentorship.Proofs.Matching.Occupancy
import Mentorship.Proofs.NaturalOrder
import Mentorship.Proofs.Policy.Checked
import Mentorship.Proofs.StableSort

/-! The order of ranking. Each rule compares by a value of its own, so the rules one after another
order mentors totally up to ties, and two mentors tie exactly if every rule ties. The ranking of
candidates is the one stable sorting of them by this order; those of whom no two tie are ranked in
one way, whatever order they are listed in. -/

namespace Mentorship.Matching

open Policy (Fairness RuleKind Rule)
open Std (TransCmp OrientedCmp ReflCmp)

namespace Ranking

/-! ### One rule -/

section Rule
variable (f : Fairness) (student : Student)

theorem compareDigest_eq :
    compareDigest f student = compareOn fun m => (digest? f student m).getD "" := by
  funext a b
  cases f <;> simp [compareDigest, compareOn, digest?, token?]

theorem compareDigest_eq_eq_iff {a b : Mentor} :
    compareDigest f student a b = .eq ↔ digest? f student a = digest? f student b := by
  cases f <;> simp [compareDigest, digest?, token?]

instance : TransCmp (compareDigest f student) :=
  compareDigest_eq f student ▸ inferInstance

/-- Each rule orders mentors by a value of theirs. -/
instance : ∀ k : RuleKind, TransCmp (compareBy f student k)
  | .minOccupancyRatio => inferInstanceAs (TransCmp Mentor.compareOccupancy)
  | .maxRemainingCapacity => @TransCmp.opposite _ (compareOn Mentor.remaining) inferInstance
  | .minAllocationsNew => inferInstanceAs (TransCmp (compareOn Mentor.allocationsNew))
  | .minMentorId =>
    inferInstanceAs (TransCmp (compareLex (compareDigest f student) (compareOn Mentor.sortKey)))

/-- The last rule ties exactly if neither hashes nor keys tell two mentors apart. -/
theorem compareBy_minMentorId_eq_eq_iff {a b : Mentor} :
    compareBy f student .minMentorId a b = .eq ↔
      digest? f student a = digest? f student b ∧ a.sortKey = b.sortKey := by
  rw [compareBy, Ordering.then_eq_eq, compareDigest_eq_eq_iff, Std.compare_eq_iff_eq]

end Rule

/-! ### All rules -/

section Order
variable (f : Fairness) (student : Student)

theorem transCmp_rules (rules : List Rule) :
    TransCmp fun a b : Mentor =>
      rules.foldr (fun r rest => (compareBy f student r.kind a b).then rest) .eq := by
  induction rules with
  | nil => exact inferInstanceAs (TransCmp (compareOn fun _ : Mentor => ()))
  | cons r rules ih => exact inferInstanceAs (TransCmp (compareLex (compareBy f student r.kind) _))

theorem foldr_rules_eq_eq_iff (rules : List Rule) (a b : Mentor) :
    rules.foldr (fun r rest => (compareBy f student r.kind a b).then rest) .eq = .eq ↔
      ∀ r ∈ rules, compareBy f student r.kind a b = .eq := by
  induction rules with
  | nil => simp
  | cons r rules ih => simp [Ordering.then_eq_eq, ih]

end Order

variable (p : Policy) (student : Student)

instance : TransCmp (order p student) :=
  transCmp_rules p.fairness student p.rankingRules

/-- Two mentors tie exactly if every rule ties. -/
theorem order_eq_eq_iff {a b : Mentor} :
    order p student a b = .eq ↔
      ∀ r ∈ p.rankingRules, compareBy p.fairness student r.kind a b = .eq :=
  foldr_rules_eq_eq_iff p.fairness student p.rankingRules a b

/-! ### Ranked candidates -/

/-- Candidates compare as their mentors do. -/
def compareCandidates (c d : Candidate) : Ordering :=
  order p student c.mentor d.mentor

instance : TransCmp (compareCandidates p student) where
  eq_swap {c d} := by
    unfold compareCandidates
    exact OrientedCmp.eq_swap
  isLE_trans {c d e} := by
    unfold compareCandidates
    exact TransCmp.isLE_trans

theorem isSorting_rank (cs : List Candidate) :
    StableSort.IsSorting (compareCandidates p student) cs (rank p student cs) :=
  StableSort.isSorting_mergeSort (compareCandidates p student) cs

theorem pairwise_rank (cs : List Candidate) :
    (rank p student cs).Pairwise fun c d => (order p student c.mentor d.mentor).isLE :=
  (isSorting_rank p student cs).pairwise_isLE

variable {p student}

/-- The mentor selected is the best of all who are open. -/
theorem isLE_of_selected {pool : List Mentor} {w c : Candidate} {n : Nat}
    (h : Decision.ofPool p student pool = .selected w n) (hc : c ∈ openCandidates p student pool) :
    (order p student w.mentor c.mentor).isLE = true := by
  obtain ⟨others, hrank⟩ := Decision.rank_of_selected h
  have hmem := (rank_perm p student (openCandidates p student pool)).mem_iff.mpr hc
  have hpair := pairwise_rank p student (openCandidates p student pool)
  rw [hrank] at hmem hpair
  rcases List.mem_cons.mp hmem with rfl | hothers
  · have hself : order p student c.mentor c.mentor = .eq := Std.ReflCmp.compare_self
    rw [hself]
    rfl
  · exact (List.pairwise_cons.mp hpair).1 c hothers

/-- Candidates of whom no two tie are ranked in one way, however they are listed. -/
theorem map_mentor_rank_of_perm {cs ds : List Candidate}
    (hperm : (cs.map (·.mentor)).Perm (ds.map (·.mentor)))
    (hties : ∀ a ∈ cs.map (·.mentor), ∀ b ∈ cs.map (·.mentor),
      order p student a b = .eq → a = b) :
    (rank p student cs).map (·.mentor) = (rank p student ds).map (·.mentor) := by
  have hcs := (rank_perm p student cs).map (·.mentor)
  have hds := (rank_perm p student ds).map (·.mentor)
  have hsorted (es : List Candidate) : ((rank p student es).map (·.mentor)).Pairwise
      fun a b => (order p student a b).isLE := List.pairwise_map.mpr (pairwise_rank p student es)
  refine List.Perm.eq_of_pairwise ?_ (hsorted cs) (hsorted ds) (hcs.trans (hperm.trans hds.symm))
  intro a b ha hb hab hba
  refine hties a (hcs.mem_iff.mp ha) b (hperm.mem_iff.mpr (hds.mem_iff.mp hb)) ?_
  exact OrientedCmp.isLE_antisymm hab hba

end Ranking

/-! ### Places to rank -/

namespace Candidate

variable {pool : List Mentor} {places : List Nat}

theorem getElem?_of_mem_pick {c : Candidate} (h : c ∈ pick pool places) :
    pool[c.index]? = some c.mentor := by
  obtain ⟨i, -, hi⟩ := List.mem_filterMap.mp h
  obtain ⟨m, hm, rfl⟩ := Option.map_eq_some_iff.mp hi
  exact hm

theorem map_index_pick (hplaces : ∀ i ∈ places, i < pool.length) :
    (pick pool places).map (·.index) = places := by
  induction places with
  | nil => rfl
  | cons i places ih =>
    obtain ⟨hi, hrest⟩ := List.forall_mem_cons.mp hplaces
    rw [pick, List.filterMap_cons, List.getElem?_eq_getElem hi]
    exact congrArg (i :: ·) (ih hrest)

end Candidate

namespace Ranking

/-- Whatever the policy and the student, candidates compare as a total preorder does: each ties with
itself, the comparison the other way round is the swapped one, and being no later is transitive. The
candidates at some places of a pool are ranked by the one stable sorting of them: their places are
rearranged, nobody comes strictly before an earlier one, and those that tie stay in their order. -/
theorem rank_pick (p : Policy) (student : Student) (pool : List Mentor) (places : List Nat)
    (hplaces : ∀ i ∈ places, i < pool.length) :
    let cmp := compareCandidates p student
    let cs := Candidate.pick pool places
    ((∀ c, cmp c c = .eq) ∧ (∀ c d, cmp d c = (cmp c d).swap) ∧
      ∀ c d e, (cmp c d).isLE → (cmp d e).isLE → (cmp c e).isLE) ∧
    (cs.map (·.index) = places ∧ ∀ c ∈ cs, pool[c.index]? = some c.mentor) ∧
    ((rank p student cs).map (·.index)).Perm places ∧
    StableSort.IsSorting cmp cs (rank p student cs) ∧
    ∀ ranked, StableSort.IsSorting cmp cs ranked → ranked = rank p student cs := by
  intro cmp cs
  have hindex : cs.map (·.index) = places := Candidate.map_index_pick hplaces
  have hsorting : StableSort.IsSorting cmp cs (rank p student cs) := isSorting_rank p student cs
  refine ⟨⟨fun c => ?_, fun c d => ?_, fun c d e => ?_⟩, ⟨hindex, fun c hc => ?_⟩, ?_, hsorting,
    fun ranked hranked => hranked.eq hsorting⟩
  · exact ReflCmp.compare_self
  · exact OrientedCmp.eq_swap
  · exact TransCmp.isLE_trans
  · exact Candidate.getElem?_of_mem_pick hc
  · exact hindex ▸ hsorting.perm.map _

/-- Two mentors whose identifiers spell one number in different digits, around a third. -/
def spellings : List Mentor :=
  ["EMP-۲", "EMP-10", "EMP-2"].map fun id => .fresh id (.ofStages fun _ => .int 1) 1

/-- The two spellings tie, and each comes as often as it is listed and in the order of the list. -/
theorem rank_pick_spellings :
    (∀ i ∈ [1, 2, 0, 2], i < spellings.length) ∧
    (rank (Policy.plain .deterministic) ⟨"1", default⟩
      (Candidate.pick spellings [1, 2, 0, 2])).map (·.index) = [2, 0, 2, 1] := by
  have hplaces : ∀ i ∈ [1, 2, 0, 2], i < spellings.length := by decide
  obtain ⟨-, -, -, -, hunique⟩ :=
    rank_pick (Policy.plain .deterministic) ⟨"1", default⟩ spellings [1, 2, 0, 2] hplaces
  have hranked := hunique (Candidate.pick spellings [2, 0, 2, 1])
    ⟨by decide, by decide +kernel, by decide +kernel⟩
  rw [← hranked]
  exact ⟨hplaces, rfl⟩

end Ranking

end Mentorship.Matching
