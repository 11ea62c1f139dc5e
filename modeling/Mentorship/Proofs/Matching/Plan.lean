import Mathlib.Algebra.BigOperators.Fin
import Mathlib.Algebra.Order.BigOperators.Group.Finset
import Mathlib.Data.Fintype.Fin
import Mentorship.Proofs.Matching.Maximality
import Mentorship.Proofs.Matching.SeatAccounts
import Mentorship.Proofs.Policy.Checked

/-! Batches and plans. A plan gives some of the students a mentor each, in any way that eligibility
and the seats at the start allow. No plan serves more than twice the students that a batch serves:
those whom the batch serves too are no more than its placements, and those whom it turns away were
planned for mentors who have given all their seats to others. -/

namespace Mentorship.Matching

open Finset

/-! ### Plans -/

/-- Some of the students with an eligible mentor each, by places; no mentor has more of them than
seats. -/
structure Plan (p : Policy) (students : List Student) (pool : List Mentor) where
  mentor? : Fin students.length → Option (Fin pool.length)
  isEligible_of_mentor? : ∀ i j, mentor? i = some j → isEligible p students[i] pool[j] = true
  card_le_seats : ∀ j, ((univ.filter fun i => mentor? i = some j).card : Int) ≤ max 0 pool[j].remaining

namespace Plan

variable {p : Policy} {students : List Student} {pool : List Mentor}

/-- The students whom a plan serves. -/
def served (f : Plan p students pool) : Finset (Fin students.length) :=
  {i | (f.mentor? i).isSome}

end Plan

/-! ### What a batch decides -/

def Decision.isSelected : Decision → Bool
  | selected .. => true
  | failed .. => false

theorem Decision.length_settle (d : Decision) (pool : List Mentor) :
    (d.settle pool).length = pool.length := by
  cases d <;> simp [settle]

/-- All seats that a decision takes are those of the mentor whom it selects. -/
theorem Decision.sum_taken (p : Policy) (student : Student) (pool : List Mentor) :
    ∑ j ∈ range pool.length, (ofPool p student pool).taken j =
      if (ofPool p student pool).isSelected then 1 else 0 := by
  cases hd : ofPool p student pool with
  | failed f s => simp [taken, isSelected]
  | selected w n =>
    obtain ⟨hw, -, -⟩ := winner_of_selected hd
    have hlt := (List.getElem?_eq_some_iff.mp hw).1
    simp [taken, isSelected, hlt]

namespace Batch

variable (p : Policy)

/-- What is decided on the student at a place. -/
def decisionAt (students : List Student) (pool : List Mentor) (i : Fin students.length) :
    Decision :=
  Decision.ofPool p students[i] (poolAfter p (students.take i) pool)

/-- A student selected adds one placement to those of the students after. -/
theorem length_placements_cons (row : Nat) (student : Student) (students : List Student)
    (pool : List Mentor) :
    ((turns p row (student :: students) pool).filterMap (·.placement)).length =
      (if (Decision.ofPool p student pool).isSelected then 1 else 0) +
        ((turns p (row + 1) students ((Decision.ofPool p student pool).settle pool)).filterMap
          (·.placement)).length := by
  simp only [turns, Turn.ofPool, List.filterMap_cons]
  cases Decision.ofPool p student pool with
  | failed f s => simp [Decision.isSelected, Decision.placement?]
  | selected w n => simp [Decision.isSelected, Decision.placement?, Nat.add_comm]

/-- Every placement takes one seat. -/
theorem sum_taken (row : Nat) (students : List Student) (pool : List Mentor) :
    ∑ j ∈ range pool.length, taken p j students pool =
      ((turns p row students pool).filterMap (·.placement)).length := by
  induction students generalizing row pool with
  | nil => simp [taken, turns]
  | cons student students ih =>
    have hrest := ih (row + 1) ((Decision.ofPool p student pool).settle pool)
    rw [Decision.length_settle] at hrest
    simp only [taken, sum_add_distrib, Decision.sum_taken, hrest, length_placements_cons]

/-- The students who get a mentor are as many as the placements. -/
theorem card_isSelected (row : Nat) (students : List Student) (pool : List Mentor) :
    (univ.filter fun i => (decisionAt p students pool i).isSelected).card =
      ((turns p row students pool).filterMap (·.placement)).length := by
  induction students generalizing row pool with
  | nil => rfl
  | cons student students ih =>
    have hrest := ih (row + 1) ((Decision.ofPool p student pool).settle pool)
    have hfirst : decisionAt p (student :: students) pool 0 = Decision.ofPool p student pool := rfl
    have hlater (i : Fin students.length) : decisionAt p (student :: students) pool i.succ =
        decisionAt p students ((Decision.ofPool p student pool).settle pool) i := rfl
    refine (Fin.card_filter_univ_succ' _).trans ?_
    simp only [hfirst, hlater, hrest, length_placements_cons]

/-- A mentor who is eligible for a student turned away gives all seats in the end. -/
theorem remaining_le_taken {students : List Student} {pool : List Mentor}
    {i : Fin students.length} {j : Fin pool.length}
    (hi : (decisionAt p students pool i).isSelected = false)
    (hj : isEligible p students[i] pool[j] = true) :
    pool[j].remaining ≤ taken p j students pool := by
  cases hd : decisionAt p students pool i with
  | selected w n => simp [hd, Decision.isSelected] at hi
  | failed f s =>
    have hlast : (poolAfter p students pool)[j]? =
        some (pool[j].takeSeats (taken p j students pool)) := by
      simp [getElem?_poolAfter]
    have hfull := remaining_nonpos_of_failed hd (students.drop i) _
      (by rw [poolAfter_drop_take]; exact List.mem_of_getElem? hlast)
      (by rwa [isEligible_takeSeats])
    rw [Mentor.remaining_takeSeats] at hfull
    omega

end Batch

/-! ### The bound -/

namespace Plan

open Batch

variable {p : Policy} {students : List Student} {pool : List Mentor}
variable (f : Plan p students pool)

/-- The students planned for a mentor whom the batch turns away. -/
def turnedAway (j : Fin pool.length) : Finset (Fin students.length) :=
  {i | f.mentor? i = some j ∧ (decisionAt p students pool i).isSelected = false}

theorem card_turnedAway_le (j : Fin pool.length) :
    (f.turnedAway j).card ≤ taken p j students pool := by
  -- one student turned away is enough for the mentor to end without a seat
  rcases (f.turnedAway j).eq_empty_or_nonempty with hempty | ⟨i, hi⟩
  · rw [hempty, card_empty]
    exact Nat.zero_le _
  · obtain ⟨hplan, haway⟩ : f.mentor? i = some j ∧
        (decisionAt p students pool i).isSelected = false := by simpa [turnedAway] using hi
    have hfull := remaining_le_taken p haway (f.isEligible_of_mentor? i j hplan)
    have hseats := f.card_le_seats j
    have hsub : (f.turnedAway j).card ≤ (univ.filter fun i => f.mentor? i = some j).card :=
      card_le_card (monotone_filter_right _ fun _ _ h => h.1)
    omega

/-- A plan serves students whom the batch serves too, or turns away from one of the mentors. -/
theorem served_subset : f.served ⊆
    ({i | (decisionAt p students pool i).isSelected} : Finset (Fin students.length)) ∪
      univ.biUnion f.turnedAway := by
  intro i hi
  obtain ⟨j, hj⟩ := Option.isSome_iff_exists.mp (by simpa [served] using hi)
  cases hd : (decisionAt p students pool i).isSelected with
  | true => simp [hd]
  | false => simp [turnedAway, hd, hj]

theorem card_served_le (row : Nat) :
    f.served.card ≤ 2 * ((turns p row students pool).filterMap (·.placement)).length := by
  calc f.served.card
    _ ≤ _ := (card_le_card f.served_subset).trans (card_union_le _ _)
    _ ≤ (univ.filter fun i => (decisionAt p students pool i).isSelected).card +
        ∑ j, (f.turnedAway j).card :=
      Nat.add_le_add_left card_biUnion_le _
    _ ≤ (univ.filter fun i => (decisionAt p students pool i).isSelected).card +
        ∑ j : Fin pool.length, taken p j students pool :=
      Nat.add_le_add_left (sum_le_sum fun j _ => f.card_turnedAway_le j) _
    _ = 2 * ((turns p row students pool).filterMap (·.placement)).length := by
      rw [card_isSelected p row, ← Finset.sum_range fun j => taken p j students pool,
        sum_taken p row, Nat.two_mul]

/-- No plan serves more than twice the students that the batch serves. -/
theorem card_served_le_two_mul_allocated :
    ∃ out, run p students pool = .ok out ∧ f.served.card ≤ 2 * out.summary.allocated :=
  ⟨_, run_eq p students pool, f.card_served_le 0⟩

def wildcardDraft : Policy.Draft :=
  { Policy.Draft.plain .deterministic with schoolWildcard := some true }

def wildcardPolicy : Policy :=
  { Policy.plain .deterministic with schoolWildcard := true }

def schooled (school : Trait) : Profile :=
  { Profile.ofStages fun _ => .int 1 with school }

/-- A mentor for each of two schools, with a seat each. -/
def oneSeatEach : List Mentor :=
  [.fresh "1" (schooled (.int 1)) 1, .fresh "2" (schooled (.int 2)) 1]

/-- A student for whom any school will do, before one who can go to the first school only. -/
def flexibleFirst : List Student :=
  [⟨"1", schooled .missing⟩, ⟨"2", schooled (.int 1)⟩]

/-- The plan that keeps the seat of the first school for the second student. -/
def crossed : Plan wildcardPolicy flexibleFirst oneSeatEach where
  mentor? i := some i.rev
  isEligible_of_mentor? := by decide
  card_le_seats := by decide

/-- The bound is sharp: the batch gives the first student the seat that the second needs. -/
theorem card_served_crossed :
    Policy.check .migrate wildcardDraft = .ok wildcardPolicy ∧
    ∃ out, run wildcardPolicy flexibleFirst oneSeatEach = .ok out ∧
      out.summary.allocated = 1 ∧ crossed.served.card = 2 ∧
      crossed.served.card ≤ 2 * out.summary.allocated := by
  obtain ⟨out, hrun, hbound⟩ := crossed.card_served_le_two_mul_allocated
  refine ⟨rfl, out, hrun, ?_, by decide, hbound⟩
  have hranked : Ranking.rank wildcardPolicy ⟨"1", schooled .missing⟩
      (openCandidates wildcardPolicy ⟨"1", schooled .missing⟩ oneSeatEach) =
      [⟨0, .fresh "1" (schooled (.int 1)) 1⟩, ⟨1, .fresh "2" (schooled (.int 2)) 1⟩] :=
    List.mergeSort_of_pairwise (by decide +kernel)
  have hfirst : Decision.ofPool wildcardPolicy ⟨"1", schooled .missing⟩ oneSeatEach =
      .selected ⟨0, .fresh "1" (schooled (.int 1)) 1⟩ 2 :=
    Decision.ofPool_of_rank rfl hranked
  -- now the mentor of the first school is full, and the other is not eligible
  have hsecond : Decision.ofPool wildcardPolicy ⟨"2", schooled (.int 1)⟩
      (oneSeatEach.set 0 (Mentor.takeSeat (.fresh "1" (schooled (.int 1)) 1))) =
      .failed .full .capacityGate :=
    Decision.ofPool_of_full rfl rfl
  rw [run_eq, Except.ok.injEq] at hrun
  subst hrun
  simp [outcome, flexibleFirst, turns, Turn.ofPool, hfirst, hsecond, Decision.settle,
    Decision.placement?]

end Plan

end Mentorship.Matching
