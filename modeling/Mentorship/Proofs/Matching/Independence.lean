import Mentorship.Proofs.Matching.Consecutive
import Mentorship.Proofs.Matching.Reports
import Mentorship.Proofs.Matching.View
import Mentorship.Proofs.Policy.Checked

/-! Independent students. Students without a common eligible mentor see no change when the other
takes a seat, so it does not matter which of two such neighbours comes first: they exchange their
places in log and trace, and nothing else changes. -/

namespace Mentorship.Matching

/-! ### Students without a common eligible mentor -/

/-- No mentor of the pool is eligible for both students. -/
def Independent (p : Policy) (pool : List Mentor) (s t : Student) : Prop :=
  ∀ m ∈ pool, ¬(isEligible p s m = true ∧ isEligible p t m = true)

namespace Independent

variable {p : Policy} {pool : List Mentor} {s t : Student}

theorem symm (h : Independent p pool s t) : Independent p pool t s :=
  fun m hm hboth => h m hm hboth.symm

/-- Students who share no mentor at the start never do. -/
theorem poolAfter (h : Independent p pool s t) (students : List Student) :
    Independent p (Batch.poolAfter p students pool) s t := by
  intro m hm hboth
  obtain ⟨m₀, hm₀, n, rfl⟩ := Batch.exists_of_mem_poolAfter p hm
  rw [isEligible_takeSeats, isEligible_takeSeats] at hboth
  exact h m₀ hm₀ hboth

/-- A student does not see the seat that the other takes. -/
theorem view_settle (h : Independent p pool s t) :
    view p t ((Decision.ofPool p s pool).settle pool) = view p t pool := by
  cases hd : Decision.ofPool p s pool with
  | failed f stage => rfl
  | selected w n =>
    obtain ⟨hw, heligible, -⟩ := Decision.winner_of_selected hd
    have hother : isEligible p t w.mentor = false := by
      rw [← Bool.not_eq_true]
      exact fun ht => h w.mentor (List.mem_of_getElem? hw) ⟨heligible, ht⟩
    obtain ⟨hlt, hget⟩ := List.getElem?_eq_some_iff.mp hw
    rw [Decision.settle, view, List.map_set, Mentor.seenBy_takeSeat p t hother, ← hget,
      ← List.getElem_map (fun m : Mentor => m.seenBy p t) (h := by simpa using hlt)]
    exact List.set_getElem_self _

theorem ofPool_settle (h : Independent p pool s t) :
    Decision.ofPool p t ((Decision.ofPool p s pool).settle pool) = Decision.ofPool p t pool :=
  Decision.ofPool_of_view h.view_settle

/-- The pool after both students does not tell who came first. -/
theorem poolAfter_swap (h : Independent p pool s t) :
    Batch.poolAfter p [s, t] pool = Batch.poolAfter p [t, s] pool := by
  apply List.ext_getElem?
  intro i
  rw [Batch.poolAfter_cons, Batch.poolAfter_cons, Batch.poolAfter_cons, Batch.poolAfter_cons,
    Batch.poolAfter_nil, Batch.poolAfter_nil, Decision.getElem?_settle, Decision.getElem?_settle,
    Decision.getElem?_settle, Decision.getElem?_settle, h.ofPool_settle, h.symm.ofPool_settle]
  cases pool[i]? with
  | none => rfl
  | some m => simp [Nat.add_comm]

end Independent

/-! ### Exchanged students -/

def LogEntry.inRow (row : Nat) (e : LogEntry) : LogEntry :=
  { e with row }

/-- A turn with its log entry in another row. -/
def Turn.inRow (row : Nat) (t : Turn) : Turn :=
  { t with entry := t.entry.inRow row }

@[simp] theorem Turn.placement_inRow (row : Nat) (t : Turn) :
    (t.inRow row).placement = t.placement := rfl

@[simp] theorem Turn.entry_inRow (row : Nat) (t : Turn) :
    (t.inRow row).entry = t.entry.inRow row := rfl

@[simp] theorem Turn.trace_inRow (row : Nat) (t : Turn) : (t.inRow row).trace = t.trace := rfl

/-- Two outcomes in which the students in `row` and the row after it have exchanged their places:
each keeps log entry and trace records, and all else is the same. -/
structure Outcome.Exchanged (row : Nat) (out out' : Outcome) : Prop where
  pool_eq : out'.pool = out.pool
  summary_eq : out'.summary = out.summary
  progress_eq : out'.progress = out.progress
  log_eq : ∀ i, i ≠ row → i ≠ row + 1 → out'.log[i]? = out.log[i]?
  log_first : out'.log[row]? = out.log[row + 1]?.map (·.inRow row)
  log_second : out'.log[row + 1]? = out.log[row]?.map (·.inRow (row + 1))
  records_eq : ∀ i, i ≠ row → i ≠ row + 1 → out'.records i = out.records i
  records_first : out'.records row = out.records (row + 1)
  records_second : out'.records (row + 1) = out.records row

namespace Batch

/-- Only at the two places of a pair does it matter which pair stands there. -/
theorem getElem?_append_pair {α : Type} (as bs : List α) (x y x' y' : α) {i : Nat}
    (hi : i ≠ as.length) (hi' : i ≠ as.length + 1) :
    (as ++ x :: y :: bs)[i]? = (as ++ x' :: y' :: bs)[i]? := by
  rcases Nat.lt_or_ge i as.length with hlt | hge
  · rw [List.getElem?_append_left hlt, List.getElem?_append_left hlt]
  · obtain ⟨j, rfl⟩ : ∃ j, i = as.length + 2 + j := ⟨i - as.length - 2, by omega⟩
    have hj : as.length + 2 + j - as.length = j + 2 := by omega
    rw [List.getElem?_append_right (by omega), List.getElem?_append_right (by omega), hj]
    rfl

variable (p : Policy)

/-- What is read off turns without their rows is only put in another order. -/
theorem map_swap_perm {α : Type} {g : Turn → α} (hg : ∀ row t, g (t.inRow row) = g t)
    (as bs : List Turn) (x y : Turn) (row row' : Nat) :
    ((as ++ y.inRow row :: x.inRow row' :: bs).map g).Perm ((as ++ x :: y :: bs).map g) := by
  simp only [List.map_append, List.map_cons, hg]
  exact (List.Perm.swap _ _ _).append_left _

theorem length_placements_swap (as bs : List Turn) (x y : Turn) (row row' : Nat) :
    ((as ++ y.inRow row :: x.inRow row' :: bs).filterMap (·.placement)).length =
      ((as ++ x :: y :: bs).filterMap (·.placement)).length := by
  have hperm := (map_swap_perm Turn.placement_inRow as bs x y row row').filterMap id
  rw [List.filterMap_map, List.filterMap_map] at hperm
  exact hperm.length_eq

theorem countFailures_swap (as bs : List Turn) (x y : Turn) (row row' : Nat) (f : Failure) :
    countFailures ((as ++ y.inRow row :: x.inRow row' :: bs).map (·.entry)) f =
      countFailures ((as ++ x :: y :: bs).map (·.entry)) f := by
  have hperm := map_swap_perm (g := fun t => t.entry.failure?) (fun _ _ => rfl) as bs x y row row'
  have hcount := hperm.countP_eq (· == some f)
  rw [List.countP_map, List.countP_map] at hcount
  rw [countFailures, countFailures, List.countP_map, List.countP_map]
  exact hcount

/-- Neighbouring turns that exchange their rows leave the totals as they are. -/
theorem exchanged_outcome {as bs : List Turn} {x y : Turn}
    (hts : ∀ t ∈ as ++ x :: y :: bs, t.trace.length = 8) (pool : List Mentor) :
    (outcome p (as ++ x :: y :: bs) pool).Exchanged as.length
      (outcome p (as ++ y.inRow as.length :: x.inRow (as.length + 1) :: bs) pool) := by
  have hts' : ∀ t ∈ as ++ y.inRow as.length :: x.inRow (as.length + 1) :: bs,
      t.trace.length = 8 := by
    simp only [List.forall_mem_append, List.forall_mem_cons] at hts ⊢
    exact ⟨hts.1, hts.2.2.1, hts.2.1, hts.2.2.2⟩
  constructor
  case pool_eq => rfl
  case progress_eq => simp [outcome]
  case summary_eq =>
    have hlength : (as ++ y.inRow as.length :: x.inRow (as.length + 1) :: bs).length =
        (as ++ x :: y :: bs).length := by simp
    simp only [outcome, hlength, length_placements_swap, countFailures_swap]
  case log_eq =>
    intro i hi hi'
    simp only [outcome, List.map_append, List.map_cons]
    exact getElem?_append_pair _ _ _ _ _ _ (by simpa using hi) (by simpa using hi')
  case log_first => simp [outcome]
  case log_second => simp [outcome]
  case records_eq =>
    intro i hi hi'
    rw [records_outcome p hts, records_outcome p hts', getElem?_append_pair as bs _ _ x y hi hi']
  case records_first =>
    rw [records_outcome p hts, records_outcome p hts']
    simp
  case records_second =>
    rw [records_outcome p hts, records_outcome p hts']
    simp

variable {p} {pool : List Mentor} {s t : Student}

/-- Two neighbours without a common eligible mentor take the turns that each would take first. -/
theorem turns_pair (row : Nat) (later : List Student) (h : Independent p pool s t) :
    turns p row (s :: t :: later) pool =
      Turn.ofPool p row s pool :: Turn.ofPool p (row + 1) t pool ::
        turns p (row + 2) later (poolAfter p [s, t] pool) := by
  rw [turns, turns, Turn.ofPool_of_view h.view_settle]
  rfl

theorem turns_swap (earlier later : List Student) (h : Independent p pool s t) :
    ∃ as bs x y, as.length = earlier.length ∧ x.entry.studentId = s.id ∧ y.entry.studentId = t.id ∧
      turns p 0 (earlier ++ s :: t :: later) pool = as ++ x :: y :: bs ∧
      turns p 0 (earlier ++ t :: s :: later) pool =
        as ++ y.inRow as.length :: x.inRow (as.length + 1) :: bs := by
  have hmet := h.poolAfter earlier
  refine ⟨turns p 0 earlier pool, turns p (0 + earlier.length + 2) later
    (poolAfter p [s, t] (poolAfter p earlier pool)),
    Turn.ofPool p (0 + earlier.length) s (poolAfter p earlier pool),
    Turn.ofPool p (0 + earlier.length + 1) t (poolAfter p earlier pool),
    length_turns p 0 earlier pool, rfl, rfl, ?_, ?_⟩
  · rw [turns_append_row, turns_pair _ later hmet]
  · rw [turns_append_row, turns_pair _ later hmet.symm, ← hmet.poolAfter_swap, length_turns,
      Nat.zero_add]
    rfl

/-- Independent students commute. Of two neighbours without a common eligible mentor it does not
matter who comes first: the final pool, the totals and all that is reported of other students are
the same, and the two keep their log entries, but for the rows, and their eight trace records. What
is placed can be read off the log. -/
theorem run_swap (earlier later : List Student) (h : Independent p pool s t) :
    ∃ out out' : Outcome,
      run p (earlier ++ s :: t :: later) pool = .ok out ∧
      run p (earlier ++ t :: s :: later) pool = .ok out' ∧
      out.Exchanged earlier.length out' ∧
      (out.log[earlier.length]?.map (·.studentId) = some s.id ∧
        out.log[earlier.length + 1]?.map (·.studentId) = some t.id) ∧
      ((out.records earlier.length).length = 8 ∧ (out.records (earlier.length + 1)).length = 8) ∧
      out.placements = out.log.filterMap (·.placement?) ∧
      out'.placements = out'.log.filterMap (·.placement?) := by
  obtain ⟨as, bs, x, y, has, hx, hy, hst, hts⟩ := turns_swap earlier later h
  have hlength : ∀ u ∈ as ++ x :: y :: bs, u.trace.length = 8 := by
    rw [← hst]
    exact fun u hu => length_trace_of_mem_turns p hu
  have hpool : poolAfter p (earlier ++ t :: s :: later) pool =
      poolAfter p (earlier ++ s :: t :: later) pool := by
    rw [poolAfter_append, poolAfter_append]
    exact congrArg (poolAfter p later) (h.poolAfter earlier).poolAfter_swap.symm
  refine ⟨_, _, run_eq p _ pool, run_eq p _ pool, ?_, ⟨?_, ?_⟩, ⟨?_, ?_⟩,
    placements_turns p 0 _ pool, placements_turns p 0 _ pool⟩
  · rw [hst, hts, hpool, ← has]
    exact exchanged_outcome p hlength _
  all_goals rw [hst, ← has]
  · simp [outcome, hx]
  · simp [outcome, hy]
  · rw [records_outcome p hlength]
    simp [hlength]
  · rw [records_outcome p hlength]
    simp [hlength]

def grouped (group : Int) : Profile :=
  { Profile.ofStages fun _ => .int 1 with group := .int group }

/-- A mentor for each of two groups, with a seat each. -/
def twoGroups : List Mentor :=
  [.fresh "1" (grouped 1) 1, .fresh "2" (grouped 2) 1]

/-- Neighbours of different groups, one of whom finds the group's seat taken. -/
theorem run_swap_groups :
    Independent (.plain .deterministic) twoGroups ⟨"2", grouped 1⟩ ⟨"3", grouped 2⟩ ∧
    ∃ out out' : Outcome,
      run (.plain .deterministic)
        [⟨"1", grouped 2⟩, ⟨"2", grouped 1⟩, ⟨"3", grouped 2⟩, ⟨"4", grouped 1⟩]
        twoGroups = .ok out ∧
      run (.plain .deterministic)
        [⟨"1", grouped 2⟩, ⟨"3", grouped 2⟩, ⟨"2", grouped 1⟩, ⟨"4", grouped 1⟩]
        twoGroups = .ok out' ∧
      out.Exchanged 1 out' ∧ out'.log[2]?.map (·.studentId) = some "2" := by
  have h : Independent (.plain .deterministic) twoGroups ⟨"2", grouped 1⟩ ⟨"3", grouped 2⟩ := by
    unfold Independent
    decide
  obtain ⟨out, out', hrun, hrun', hexchanged, ⟨hid, -⟩, -⟩ :=
    run_swap [⟨"1", grouped 2⟩] [⟨"4", grouped 1⟩] h
  have hsecond : out'.log[2]? = out.log[1]?.map (·.inRow 2) := hexchanged.log_second
  refine ⟨h, out, out', hrun, hrun', hexchanged, ?_⟩
  rw [hsecond, Option.map_map]
  exact hid

end Batch

end Mentorship.Matching
