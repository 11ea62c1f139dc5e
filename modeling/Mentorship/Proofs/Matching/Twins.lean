import Mentorship.Proofs.Matching.RankOrder
import Mentorship.Proofs.Matching.Turns
import Mentorship.Proofs.Policy.Checked

/-! Twin mentors. Among mentors who differ in nothing but their identifiers, every rule but the last
puts those who have given fewer seats first, and the last rule is never the first. So whoever is
selected among them has given no more seats than the others, and the numbers of seats that they have
given stay within one of each other. -/

namespace Mentorship.Matching

open Policy (Fairness RuleKind)

/-! ### Fewer seats given -/

/-- Mentors of one size, of whom the first has given fewer seats. -/
structure Mentor.Ahead (a b : Mentor) : Prop where
  initial_eq : a.initial = b.initial
  remaining_lt : b.remaining < a.remaining
  used_lt : a.used < b.used
  allocationsNew_lt : a.allocationsNew < b.allocationsNew

namespace Mentor

/-- A mentor who has given no seat yet. -/
def unused (profile : Profile) (seats : Int64) (allocationsNew : Nat) (id : String) : Mentor :=
  ⟨id, profile, seats.toInt, seats.toInt, allocationsNew⟩

variable {profile : Profile} {seats : Int64} {allocationsNew : Nat}

theorem remaining_takeSeats_unused (id : String) (n : Nat) :
    ((unused profile seats allocationsNew id).takeSeats n).remaining = seats.toInt - n := rfl

/-- The seats given count as used as long as there are so many. -/
theorem used_takeSeats_unused {id : String} {n : Nat} (hn : (n : Int) ≤ seats.toInt) :
    ((unused profile seats allocationsNew id).takeSeats n).used = n := by
  obtain ⟨hlow, hhigh⟩ := fitsWord_toInt seats
  have hfit : ((unused profile seats allocationsNew id).takeSeats n).SeatsFit := by
    constructor <;> simp only [takeSeats, unused, FitsWord] <;> omega
  rw [hfit.used_eq]
  simp only [takeSeats, unused]
  omega

/-- Of two mentors alike the one who gave fewer seats is ahead. -/
theorem ahead_takeSeats (id id' : String) {m n : Nat} (h : m < n) (hn : (n : Int) ≤ seats.toInt) :
    ((unused profile seats allocationsNew id).takeSeats m).Ahead
      ((unused profile seats allocationsNew id').takeSeats n) where
  initial_eq := rfl
  remaining_lt := by
    rw [remaining_takeSeats_unused, remaining_takeSeats_unused]
    omega
  used_lt := by
    rw [used_takeSeats_unused (by omega), used_takeSeats_unused hn]
    exact_mod_cast h
  allocationsNew_lt := by
    simp only [takeSeats, unused]
    omega

end Mentor

namespace Ranking

variable {student : Student} {a b : Mentor}

/-- All rules but the last put those who have given fewer seats first. -/
theorem compareBy_of_ahead (h : a.Ahead b) (f : Fairness) :
    ∀ k : RuleKind, k ≠ .minMentorId → compareBy f student k a b = .lt
  | .minOccupancyRatio, _ => by
    have hsize : a.size = b.size := by rw [Mentor.size, Mentor.size, h.initial_eq]
    rw [compareBy, Mentor.compareOccupancy, hsize, compare_lt_iff_lt]
    exact mul_lt_mul_of_pos_right h.used_lt b.size_pos
  | .maxRemainingCapacity, _ => compare_lt_iff_lt.mpr h.remaining_lt
  | .minAllocationsNew, _ => compare_lt_iff_lt.mpr h.allocationsNew_lt
  | .minMentorId, hk => absurd rfl hk

/-- The rules of a checked policy rank those who have given fewer seats higher. -/
theorem isLE_order_of_ahead {p : Policy} {mode : Policy.Mode} {d : Policy.Draft}
    (hp : Policy.check mode d = .ok p) (h : a.Ahead b) :
    (order p student b a).isLE = false := by
  obtain ⟨r, rest, hrules, hr⟩ := Policy.head_of_check hp
  have hlt : order p student a b = .lt := by
    rw [order, hrules, List.foldr_cons, compareBy_of_ahead h p.fairness r.kind hr]
    rfl
  have hswap : order p student b a = (order p student a b).swap := Std.OrientedCmp.eq_swap
  rw [hswap, hlt]
  rfl

end Ranking

/-! ### Twins in a pool -/

/-- Mentors at some places of a pool who once differed in nothing but their identifiers, with the
seats that they have given since; the numbers of these are within one of each other. -/
structure Twins (profile : Profile) (seats : Int64) (allocationsNew : Nat) (places : Set Nat)
    (given : Nat → Nat) (pool : List Mentor) : Prop where
  getElem?_eq : ∀ i ∈ places, ∃ id,
    pool[i]? = some ((Mentor.unused profile seats allocationsNew id).takeSeats (given i))
  le_add_one : ∀ i ∈ places, ∀ j ∈ places, given i ≤ given j + 1

namespace Twins

variable {p : Policy} {mode : Policy.Mode} {d : Policy.Draft} (hp : Policy.check mode d = .ok p)
variable (student : Student) {pool : List Mentor} {profile : Profile} {seats : Int64}
variable {allocationsNew : Nat} {places : Set Nat} {given : Nat → Nat}
variable (h : Twins profile seats allocationsNew places given pool)

include h in
/-- A twin who is selected has a seat to give. -/
theorem mentor_of_selected {w : Candidate} {n : Nat}
    (hd : Decision.ofPool p student pool = .selected w n) (hw : w.index ∈ places) :
    (given w.index : Int) < seats.toInt ∧
      ∃ id, w.mentor = (Mentor.unused profile seats allocationsNew id).takeSeats (given w.index) := by
  obtain ⟨id, hget⟩ := h.getElem?_eq w.index hw
  obtain ⟨hwinner, -, hseat⟩ := Decision.winner_of_selected hd
  have hmentor := Option.some.inj (hwinner.symm.trans hget)
  rw [hmentor, Mentor.remaining_takeSeats_unused] at hseat
  exact ⟨by omega, id, hmentor⟩

include h in
/-- A twin who has given fewer seats than a selected one is open too. -/
theorem mem_openCandidates {w : Candidate} {n i : Nat} {id : String}
    (hd : Decision.ofPool p student pool = .selected w n) (hw : w.index ∈ places)
    (hi : pool[i]? = some ((Mentor.unused profile seats allocationsNew id).takeSeats (given i)))
    (hlt : given i < given w.index) :
    ⟨i, (Mentor.unused profile seats allocationsNew id).takeSeats (given i)⟩ ∈
      Matching.openCandidates p student pool := by
  obtain ⟨-, heligible, -⟩ := Decision.winner_of_selected hd
  obtain ⟨hleft, id', hmentor⟩ := h.mentor_of_selected student hd hw
  rw [hmentor] at heligible
  refine (Matching.mem_openCandidates p student pool).mpr ⟨hi, ?_, Mentor.hasSeat_iff.mpr ?_⟩
  · rw [← heligible]
    exact isEligible_congr p student rfl
  · rw [Mentor.remaining_takeSeats_unused]
    omega

include hp h in
/-- A twin is selected only if no other has given fewer seats. -/
theorem given_le_of_selected {w : Candidate} {n i : Nat}
    (hd : Decision.ofPool p student pool = .selected w n) (hw : w.index ∈ places)
    (hi : i ∈ places) : given w.index ≤ given i := by
  by_contra hlt
  rw [Nat.not_le] at hlt
  obtain ⟨id, hget⟩ := h.getElem?_eq i hi
  obtain ⟨hleft, id', hmentor⟩ := h.mentor_of_selected student hd hw
  have hbest := Ranking.isLE_of_selected hd (h.mem_openCandidates student hd hw hget hlt)
  rw [hmentor, Ranking.isLE_order_of_ahead hp (Mentor.ahead_takeSeats id id' hlt hleft.le)] at hbest
  cases hbest

include hp h in
/-- One student leaves twins within one seat of each other. -/
theorem settle : Twins profile seats allocationsNew places
    (fun i => given i + (Decision.ofPool p student pool).taken i)
    ((Decision.ofPool p student pool).settle pool) where
  getElem?_eq i hi := by
    obtain ⟨id, hget⟩ := h.getElem?_eq i hi
    exact ⟨id, by rw [Decision.getElem?_settle_of p student hget, Mentor.takeSeats_takeSeats]⟩
  le_add_one i hi j hj := by
    have hle := h.le_add_one i hi j hj
    cases hd : Decision.ofPool p student pool with
    | failed f s => simpa [Decision.taken] using hle
    | selected w n =>
      simp only [Decision.taken]
      by_cases hw : w.index = i
      · -- the twin selected has given no more than any other before
        have hmin := h.given_le_of_selected hp student hd (hw ▸ hi) hj
        rw [hw] at hmin
        split <;> split <;> omega
      · rw [if_neg hw]
        omega

include hp h in
/-- So does any number of students. -/
theorem poolAfter (students : List Student) : Twins profile seats allocationsNew places
    (fun i => given i + Batch.taken p i students pool) (Batch.poolAfter p students pool) := by
  induction students generalizing pool given with
  | nil => simpa [Batch.taken] using h
  | cons student students ih =>
    have hrest := ih (h.settle hp student)
    simpa only [Batch.taken, Batch.poolAfter_cons, Nat.add_assoc] using hrest

end Twins

namespace Batch

/-- Mentors of a pool who differ in nothing but their identifiers and have all their seats free, as
many as fit in a word, give numbers of seats that are within one of each other, whoever else is in
the pool and whatever rules and strategy a checked policy has. -/
theorem run_twins {p : Policy} {mode : Policy.Mode} {d : Policy.Draft}
    (hp : Policy.check mode d = .ok p) (students : List Student) {pool : List Mentor}
    {places : Set Nat} {profile : Profile} {seats : Int64} {allocationsNew : Nat}
    (htwins : ∀ i ∈ places, ∃ id,
      pool[i]? = some ⟨id, profile, seats.toInt, seats.toInt, allocationsNew⟩) :
    ∃ out : Outcome, ∃ given : Nat → Nat, run p students pool = .ok out ∧
      (∀ i : Nat, out.pool[i]? = pool[i]?.map (·.takeSeats (given i))) ∧
      ∀ i ∈ places, ∀ j ∈ places, given i ≤ given j + 1 := by
  have hstart : Twins profile seats allocationsNew places (fun _ => 0) pool :=
    ⟨by simpa [Mentor.unused] using htwins, by simp⟩
  have hend := (hstart.poolAfter hp students).le_add_one
  simp only [Nat.zero_add] at hend
  exact ⟨_, fun i => taken p i students pool, run_eq p students pool,
    getElem?_poolAfter p students pool, hend⟩

/-- Twins on both sides of a mentor with more seats. -/
def apart : List Mentor :=
  [.fresh "EMP-1" (.ofStages fun _ => .int 1) 2, .fresh "EMP-2" (.ofStages fun _ => .int 1) 3,
    .fresh "EMP-3" (.ofStages fun _ => .int 1) 2]

def threeStudents : List Student :=
  ["1", "2", "3"].map fun id => ⟨id, .ofStages fun _ => .int 1⟩

/-- Three students leave the two twins within one seat of each other. -/
theorem run_twins_apart :
    Policy.check .migrate (.plain .studentDigest) = .ok (Policy.plain .studentDigest) ∧
    ∃ out : Outcome, ∃ given : Nat → Nat,
      run (Policy.plain .studentDigest) threeStudents apart = .ok out ∧
      (∀ i : Nat, out.pool[i]? = apart[i]?.map (·.takeSeats (given i))) ∧
      given 0 ≤ given 2 + 1 ∧ given 2 ≤ given 0 + 1 := by
  have hcheck := Policy.check_plain .studentDigest
  have htwins : ∀ i ∈ ({0, 2} : Set Nat), ∃ id, apart[i]? =
      some ⟨id, .ofStages fun _ => .int 1, (2 : Int64).toInt, (2 : Int64).toInt, 0⟩ := by
    have htwo : (2 : Int64).toInt = 2 := rfl
    simp [apart, Mentor.fresh, htwo]
  obtain ⟨out, given, hrun, hpool, heven⟩ := run_twins hcheck threeStudents htwins
  exact ⟨hcheck, out, given, hrun, hpool, heven 0 (by simp) 2 (by simp),
    heven 2 (by simp) 0 (by simp)⟩

end Batch

end Mentorship.Matching
