import Mathlib.Algebra.Ring.Int.Defs
import Mentorship.Proofs.Matching.Turns
import Mentorship.Proofs.Policy.Checked

/-! Seat accounts of a batch. In a pool without repeated identifiers, pool, log, placements and
totals tell one story: a mentor ends with as many seats fewer as placements name the mentor, each
success in the log starts from what the earlier ones have left, nobody is overdrawn, and the free
seats of the pool fall by one per placement. -/

namespace Mentorship.Matching

/-- The mentor whom a log entry reports. -/
def LogEntry.mentorId? (e : LogEntry) : Option String :=
  match e.verdict with
  | .placed id .. => some id
  | .unplaced .. => none

/-- How many placements name a mentor. -/
def seatsGiven (id : String) (xs : List Placement) : Nat :=
  xs.countP (·.mentorId == id)

/-- The log and the placements name the same mentor. -/
theorem Turn.mentorId?_ofPool (p : Policy) (row : Nat) (student : Student) (pool : List Mentor) :
    (Turn.ofPool p row student pool).entry.mentorId? =
      (Turn.ofPool p row student pool).placement.map (·.mentorId) := by
  simp only [Turn.ofPool, LogEntry.mentorId?]
  cases Decision.ofPool p student pool <;> rfl

namespace Decision

variable (p : Policy) (student : Student) {pool : List Mentor}

theorem map_id_settle :
    ((ofPool p student pool).settle pool).map (·.id) = pool.map (·.id) := by
  apply List.ext_getElem?
  intro i
  simp only [List.getElem?_map, getElem?_settle, Option.map_map]
  rfl

/-- A decision that takes a seat finds one. -/
theorem taken_le {i : Nat} {m : Mentor} (hm : pool[i]? = some m) :
    ((ofPool p student pool).taken i : Int) ≤ max 0 m.remaining := by
  cases hd : ofPool p student pool with
  | failed f s => exact Int.le_max_left 0 _
  | selected w n =>
    obtain ⟨hw, -, hs⟩ := winner_of_selected hd
    simp only [taken]
    split
    · subst i
      rw [hm, Option.some.injEq] at hw
      subst hw
      omega
    · exact Int.le_max_left 0 _

/-- Where no identifier repeats, a decision takes a seat of the mentor whom its placement names. -/
theorem taken_eq_of_nodup (hids : (pool.map (·.id)).Nodup) {i : Nat} {m : Mentor}
    (hm : pool[i]? = some m) :
    (ofPool p student pool).taken i =
      if (((ofPool p student pool).placement? student).map (·.mentorId == m.id)).getD false
        then 1 else 0 := by
  cases hd : ofPool p student pool with
  | failed f s => simp [taken, placement?]
  | selected w n =>
    obtain ⟨hw, -, -⟩ := winner_of_selected hd
    have hplace : w.index = i ↔ w.mentor.id = m.id := by
      constructor
      · rintro rfl
        rw [hm, Option.some.injEq] at hw
        rw [hw]
      · intro hid
        have hlt : w.index < (pool.map (·.id)).length := by
          simpa using (List.getElem?_eq_some_iff.mp hw).1
        refine (List.getElem?_inj hlt hids).mp ?_
        simp [hw, hm, hid]
    simp [taken, placement?, hplace]

end Decision

namespace Batch

variable (p : Policy)

/-! ### Seats taken and placements made -/

theorem taken_le (students : List Student) {pool : List Mentor} {i : Nat} {m : Mentor}
    (hm : pool[i]? = some m) : (taken p i students pool : Int) ≤ max 0 m.remaining := by
  induction students generalizing pool m with
  | nil => exact Int.le_max_left 0 _
  | cons student students ih =>
    have hstep := Decision.taken_le p student hm
    have hrest := ih (Decision.getElem?_settle_of p student hm)
    rw [Mentor.remaining_takeSeats] at hrest
    simp only [taken]
    push_cast
    omega

/-- Where no identifier repeats, the seats taken at a place are the placements that name the mentor
there. -/
theorem seatsGiven_turns (row : Nat) (students : List Student) {pool : List Mentor}
    (hids : (pool.map (·.id)).Nodup) {i : Nat} {m : Mentor} (hm : pool[i]? = some m) :
    seatsGiven m.id ((turns p row students pool).filterMap (·.placement)) =
      taken p i students pool := by
  induction students generalizing row pool m with
  | nil => rfl
  | cons student students ih =>
    have hids' := (Decision.map_id_settle p student).symm ▸ hids
    have hrest := ih (row + 1) hids' (Decision.getElem?_settle_of p student hm)
    rw [Mentor.id_takeSeats] at hrest
    simp only [seatsGiven, List.countP_filterMap, turns, List.countP_cons] at hrest ⊢
    rw [hrest, taken, Decision.taken_eq_of_nodup p student hids hm]
    exact Nat.add_comm _ _

/-- The log counts the placements of a mentor as the placements do. -/
theorem countP_log (row : Nat) (students : List Student) (pool : List Mentor) (id : String) :
    ((turns p row students pool).map (·.entry)).countP (·.mentorId? == some id) =
      seatsGiven id ((turns p row students pool).filterMap (·.placement)) := by
  induction students generalizing row pool with
  | nil => rfl
  | cons student students ih =>
    simp only [seatsGiven, List.countP_filterMap, turns, List.map_cons, List.countP_cons] at ih ⊢
    rw [ih, Turn.mentorId?_ofPool]
    cases (Turn.ofPool p row student pool).placement <;> simp

/-! ### Free seats -/

theorem freeSeats_eq_sum (pool : List Mentor) :
    freeSeats pool = (pool.map fun m => max 0 m.remaining).sum := by
  induction pool with
  | nil => rfl
  | cons m pool ih =>
    rw [List.map_cons, List.sum_cons, ← ih, Int.max_comm 0 m.remaining]
    rfl

theorem freeSeats_set {pool : List Mentor} {i : Nat} {m : Mentor} (hm : pool[i]? = some m)
    (hs : 0 < m.remaining) : freeSeats (pool.set i m.takeSeat) = freeSeats pool - 1 := by
  induction pool generalizing i with
  | nil => simp at hm
  | cons m' pool ih =>
    cases i with
    | zero =>
      simp only [List.getElem?_cons_zero, Option.some.injEq] at hm
      subst hm
      simp only [freeSeats, List.set_cons_zero, List.foldr_cons, Mentor.takeSeat]
      omega
    | succ i =>
      have ih := ih (by simpa using hm)
      simp only [freeSeats, List.set_cons_succ, List.foldr_cons] at ih ⊢
      omega

/-- A decision uses up one free seat if it makes a placement. -/
theorem freeSeats_settle (student : Student) (pool : List Mentor) :
    freeSeats ((Decision.ofPool p student pool).settle pool) =
      freeSeats pool -
        if ((Decision.ofPool p student pool).placement? student).isSome then 1 else 0 := by
  cases hd : Decision.ofPool p student pool with
  | failed f s => simp [Decision.settle, Decision.placement?]
  | selected w n =>
    obtain ⟨hw, -, hs⟩ := Decision.winner_of_selected hd
    simpa [Decision.settle, Decision.placement?] using freeSeats_set hw hs

theorem freeSeats_poolAfter (row : Nat) (students : List Student) (pool : List Mentor) :
    freeSeats (poolAfter p students pool) =
      freeSeats pool - ((turns p row students pool).filterMap (·.placement)).length := by
  induction students generalizing row pool with
  | nil => simp [turns]
  | cons student students ih =>
    rw [poolAfter_cons, ih (row + 1), freeSeats_settle]
    simp only [turns, Turn.ofPool, List.filterMap_cons]
    cases (Decision.ofPool p student pool).placement? student
    · simp
    · simp only [Option.isSome_some, if_true, List.length_cons]
      push_cast
      omega

/-! ### The accounts -/

/-- Where no identifier repeats, each mentor of a pool ends with a seat less for every placement. -/
theorem poolAfter_eq_map (row : Nat) (students : List Student) {pool : List Mentor}
    (hids : (pool.map (·.id)).Nodup) :
    poolAfter p students pool = pool.map fun m =>
      m.takeSeats (seatsGiven m.id ((turns p row students pool).filterMap (·.placement))) := by
  apply List.ext_getElem?
  intro i
  rw [getElem?_poolAfter, List.getElem?_map]
  cases hm : pool[i]? with
  | none => rfl
  | some m => rw [Option.map_some, Option.map_some, seatsGiven_turns p row students hids hm]

/-- A success starts from the seats that earlier ones have left its mentor. -/
theorem seats_of_placed {students : List Student} {pool : List Mentor}
    (hids : (pool.map (·.id)).Nodup) {i : Nat} {e : LogEntry} {id : String} {n : Nat}
    {seats : SeatChange} {reason : String}
    (he : ((turns p 0 students pool).map (·.entry))[i]? = some e)
    (hv : e.verdict = .placed id n seats reason) :
    ∃ m ∈ pool, m.id = id ∧
      seats.before = m.remaining -
        (((turns p 0 students pool).map (·.entry)).take i).countP (·.mentorId? == some id) ∧
      seats.after = seats.before - 1 ∧ 0 ≤ seats.after := by
  rw [getElem?_log, Option.map_eq_some_iff] at he
  obtain ⟨student, -, rfl⟩ := he
  simp only [Turn.ofPool] at hv
  cases hd : Decision.ofPool p student (poolAfter p (students.take i) pool) with
  | failed f s => simp [hd, Decision.verdict] at hv
  | selected w k =>
    simp only [hd, Decision.verdict, Verdict.placed.injEq] at hv
    obtain ⟨rfl, -, rfl, -⟩ := hv
    obtain ⟨hw, -, hs⟩ := Decision.winner_of_selected hd
    -- the winner is a mentor of the starting pool, less the seats taken so far
    rw [getElem?_poolAfter, Option.map_eq_some_iff] at hw
    obtain ⟨m, hm, hwm⟩ := hw
    have hcount := countP_log p 0 (students.take i) pool m.id
    rw [seatsGiven_turns p 0 (students.take i) hids hm] at hcount
    refine ⟨m, List.mem_of_getElem? hm, by rw [← hwm, Mentor.id_takeSeats], ?_, rfl, ?_⟩
    · rw [← List.map_take, take_turns, ← hwm, Mentor.id_takeSeats, hcount,
        Mentor.remaining_takeSeats]
    · simp only
      omega

/-- Seat accounts of a batch on a pool without repeated identifiers. Every mentor keeps place,
identifier, profile and initial seats, and ends with a seat less and an allocation more for each
placement that names the mentor, of which there are no more than seats at the start. Every success
in the log starts from the seats that the earlier successes of its mentor have left and takes one
of them. The free seats that the summary reports are those at the start less one per placement. -/
theorem run_accounts (students : List Student) {pool : List Mentor}
    (hids : (pool.map (·.id)).Nodup) :
    ∃ out, run p students pool = .ok out ∧
      out.pool = pool.map (fun m => m.takeSeats (seatsGiven m.id out.placements)) ∧
      (∀ m ∈ pool, (seatsGiven m.id out.placements : Int) ≤ max 0 m.remaining) ∧
      (∀ (i : Nat) (e : LogEntry) (id : String) (n : Nat) (seats : SeatChange) (reason : String),
        out.log[i]? = some e → e.verdict = .placed id n seats reason →
        ∃ m ∈ pool, m.id = id ∧
          seats.before =
            m.remaining - (out.log.take i).countP (·.mentorId? == some id) ∧
          seats.after = seats.before - 1 ∧ 0 ≤ seats.after) ∧
      out.summary.remaining =
        (pool.map fun m => max 0 m.remaining).sum - out.summary.allocated := by
  refine ⟨_, run_eq p students pool, poolAfter_eq_map p 0 students hids, fun m hm => ?_,
    fun i e id n seats reason he hv => seats_of_placed p hids he hv, ?_⟩
  · obtain ⟨i, hi⟩ := List.mem_iff_getElem?.mp hm
    rw [outcome, seatsGiven_turns p 0 students hids hi]
    exact taken_le p students hi
  · rw [← freeSeats_eq_sum]
    exact freeSeats_poolAfter p 0 students pool

/-! ### Two seats for three students -/

def inGroup : Profile :=
  .ofStages fun _ => .int 1

/-- A mentor with some of three seats left, and one who is overdrawn. -/
def seatsAndDebt (left : Int) (given : Nat) : List Mentor :=
  [⟨"11", inGroup, left, 3, given⟩, ⟨"7", inGroup, -2, 0, 2⟩]

def threeAlike : List Student :=
  [⟨"1", inGroup⟩, ⟨"2", inGroup⟩, ⟨"3", inGroup⟩]

theorem turns_threeAlike : ∃ x y z : Turn,
    turns (.plain .deterministic) 0 threeAlike (seatsAndDebt 2 1) = [x, y, z] ∧
    (x.placement = some ⟨"1", "11"⟩ ∧ x.entry.mentorId? = some "11") ∧
    (y.placement = some ⟨"2", "11"⟩ ∧
      ∃ n seats reason, y.entry.verdict = .placed "11" n seats reason) ∧
    z.placement = none ∧ z.entry.failure? = some .full := by
  have hfirst : Decision.ofPool (.plain .deterministic) ⟨"1", inGroup⟩ (seatsAndDebt 2 1) =
      .selected ⟨0, ⟨"11", inGroup, 2, 3, 1⟩⟩ 1 := Decision.ofPool_of_single rfl rfl
  have hsecond : Decision.ofPool (.plain .deterministic) ⟨"2", inGroup⟩ (seatsAndDebt 1 2) =
      .selected ⟨0, ⟨"11", inGroup, 1, 3, 2⟩⟩ 1 := Decision.ofPool_of_single rfl rfl
  have hthird : Decision.ofPool (.plain .deterministic) ⟨"3", inGroup⟩ (seatsAndDebt 0 3) =
      .failed .full .capacityGate := Decision.ofPool_of_full rfl rfl
  have hpool₁ : Decision.settle (seatsAndDebt 2 1) (.selected ⟨0, ⟨"11", inGroup, 2, 3, 1⟩⟩ 1) =
      seatsAndDebt 1 2 := rfl
  have hpool₂ : Decision.settle (seatsAndDebt 1 2) (.selected ⟨0, ⟨"11", inGroup, 1, 3, 2⟩⟩ 1) =
      seatsAndDebt 0 3 := rfl
  simp [threeAlike, turns, Turn.ofPool, hpool₁, hpool₂, hfirst, hsecond, hthird,
    Decision.placement?, LogEntry.mentorId?, LogEntry.failure?, Decision.verdict]

/-- The first two of three students alike take the two seats left. The third finds both mentors
full, since the overdrawn one has no seat to give. -/
theorem run_accounts_seatsAndDebt :
    ((seatsAndDebt 2 1).map (·.id)).Nodup ∧
    ∃ out, run (.plain .deterministic) threeAlike (seatsAndDebt 2 1) = .ok out ∧
      out.placements = [⟨"1", "11"⟩, ⟨"2", "11"⟩] ∧
      (seatsGiven "11" out.placements = 2 ∧ seatsGiven "7" out.placements = 0) ∧
      out.pool = seatsAndDebt 0 3 ∧
      (∃ n reason, out.log[1]?.map (·.verdict) = some (.placed "11" n ⟨1, 0⟩ reason)) ∧
      out.log[2]?.bind (·.failure?) = some .full ∧
      out.summary.allocated = 2 ∧ out.summary.remaining = 0 := by
  have hids : ((seatsAndDebt 2 1).map (·.id)).Nodup := by decide
  obtain ⟨out, hrun, hpool, hbound, hsuccess, hfree⟩ :=
    run_accounts (.plain .deterministic) threeAlike hids
  obtain ⟨x, y, z, hturns, ⟨hx, hxid⟩, ⟨hy, n, seats, reason, hverdict⟩, hz, hfull⟩ :=
    turns_threeAlike
  have hout := Except.ok.inj (hrun.symm.trans (run_eq _ _ _))
  rw [hturns] at hout
  have hplacements : out.placements = [⟨"1", "11"⟩, ⟨"2", "11"⟩] := by
    simp [hout, outcome, hx, hy, hz]
  have hlog : out.log = [x.entry, y.entry, z.entry] := by simp [hout, outcome]
  have hallocated : out.summary.allocated = 2 := by simp [hout, outcome, hx, hy, hz]
  have hdebt : seatsGiven "7" out.placements = 0 := by
    have hnone := hbound ⟨"7", inGroup, -2, 0, 2⟩ (List.mem_cons_of_mem _ List.mem_cons_self)
    change (seatsGiven "7" out.placements : Int) ≤ max 0 (-2) at hnone
    omega
  -- the second student finds one seat less than there were at the start
  have hseats : seats = ⟨1, 0⟩ := by
    obtain ⟨m, hm, hid, hbefore, hafter, -⟩ :=
      hsuccess 1 y.entry "11" n seats reason (by rw [hlog]; rfl) hverdict
    have hearlier : (out.log.take 1).countP (·.mentorId? == some "11") = 1 := by
      simp [hlog, hxid]
    have hleft : m.remaining = 2 := by
      rcases List.mem_pair.mp hm with rfl | rfl
      · rfl
      · exact absurd hid (by decide)
    rw [hearlier, hleft] at hbefore
    rw [hbefore] at hafter
    obtain ⟨before, after⟩ := seats
    obtain rfl : before = 1 := hbefore
    obtain rfl : after = 0 := hafter
    rfl
  refine ⟨hids, out, hrun, hplacements, ⟨by rw [hplacements]; rfl, hdebt⟩, ?_,
    ⟨n, reason, ?_⟩, ?_, hallocated, ?_⟩
  · rw [hpool, hplacements]
    rfl
  · rw [hlog, ← hseats, ← hverdict]
    rfl
  · rw [hlog]
    exact hfull
  · rw [hfree, hallocated]
    rfl

end Batch

end Mentorship.Matching
