import Mentorship.Proofs.Registration.Serving
import Mentorship.Proofs.Sequence

/-! What an assignment issues: every row gets what it is due, in roster order, and the summary
counts the rows of each gender by where their ids come from. -/

namespace Mentorship.Registration

open Policy (Gender)

/-- How many assignments to a gender have an id of some origin. -/
def countFor (xs : List Assignment) (g : Gender) (o : Origin) : Nat :=
  xs.countP fun x => x.gender == g && x.origin == o

/-- Every assignment is counted once. -/
theorem sum_countFor (xs : List Assignment) (g : Gender) :
    countFor xs g .priorYear + countFor xs g .minted + countFor xs g .memoized =
      xs.countP (·.gender == g) := by
  induction xs with
  | nil => rfl
  | cons x xs ih =>
    simp only [countFor, List.countP_cons] at ih ⊢
    cases x.gender == g <;> cases x.origin <;> simp only [Bool.true_and, Bool.false_and,
      Bool.false_eq_true, beq_iff_eq, reduceCtorEq, if_true, if_false] <;> omega

/-- The row of the roster that an assignment serves. -/
def Assignment.entry (u : Assignment) : Entry :=
  ⟨u.row, u.nationalId, u.gender⟩

/-- The national id of nine zeros and the last digit of a number. -/
def NationalId.ofDigit (n : Nat) : NationalId :=
  ofDigits [Nat.digitChar (n % 10)] (by simp [width]) fun c hc => by
    rw [List.mem_singleton.mp hc]
    exact Nat.isDigit_digitChar.trans (decide_eq_true (Nat.mod_lt n (by decide)))

namespace Assigner

section
variable (a : Assigner) (roster : List Entry) (prior : Prior) (current : List String)

/-- What an assigner owes a roster. -/
def due : Issue where
  assignments := roster.zipIdx.map (a.expected roster prior current)
  summary :=
    { academicYear := a.academicYear
      yearOffset := a.year
      rows := roster.length
      genders := Gender.all.map fun g =>
        ⟨g, a.codes.code g, a.tallyOf roster prior current roster.zipIdx g⟩ }

variable {a roster prior current}

theorem tallyOf_perm {served served' : List (Entry × Nat)} (h : served.Perm served')
    (g : Gender) :
    a.tallyOf roster prior current served g = a.tallyOf roster prior current served' g := by
  have hlength : ∀ o, (rowsOf roster prior served g o).length =
      (rowsOf roster prior served' g o).length := fun o => (h.filter _).length_eq
  simp only [tallyOf, hlength]

theorem length_rowsOf_zipIdx (g : Gender) (o : Origin) :
    (rowsOf roster prior roster.zipIdx g o).length =
      countFor (a.due roster prior current).assignments g o := by
  rw [rowsOf, ← List.countP_eq_length_filter, countFor, due, List.countP_map]
  rfl

/-- Without its ids, what is due is the roster. -/
theorem map_entry_due : (a.due roster prior current).assignments.map (·.entry) = roster := by
  rw [due, List.map_map]
  exact List.zipIdx_map_fst 0 roster

theorem map_comp_entry_due {α : Type} (f : Entry → α) :
    (a.due roster prior current).assignments.map (f ∘ Assignment.entry) = roster.map f := by
  rw [← List.map_map, map_entry_due]

@[simp] theorem length_due : (a.due roster prior current).assignments.length = roster.length := by
  simp [due]

theorem countP_gender_due (g : Gender) :
    (a.due roster prior current).assignments.countP (·.gender == g) =
      roster.countP (·.gender == g) := by
  have hentries : (a.due roster prior current).assignments.countP (·.gender == g) =
      ((a.due roster prior current).assignments.map (·.entry)).countP (·.gender == g) := by
    rw [List.countP_map]
    rfl
  rw [hentries, map_entry_due]

/-- The summary of what is due counts the assignments. -/
theorem gender?_due (g : Gender) :
    (a.due roster prior current).summary.gender? g = some ⟨g, a.codes.code g,
      { next := a.firstFree current g + countFor (a.due roster prior current).assignments g .minted
        reused := countFor (a.due roster prior current).assignments g .priorYear
        minted := countFor (a.due roster prior current).assignments g .minted
        memoized := countFor (a.due roster prior current).assignments g .memoized }⟩ := by
  simp only [← length_rowsOf_zipIdx]
  cases g <;> rfl

/-- If every row that needs a new id fits, what is due is issued, unless two students share an
id. -/
theorem assign_of_fits (hfit : ∀ u ∈ roster.zipIdx, a.Fits roster prior current u) :
    a.assign roster prior current = (do
      ensureUnique (a.due roster prior current).assignments
      return a.due roster prior current) := by
  obtain ⟨s, hall, hs⟩ := assignAll_of_fits rfl reached_start fun u hu =>
    hfit u ((visitOrder_perm roster).mem_iff.mp hu)
  have htallies : ∀ g, s.tallies.get g = a.tallyOf roster prior current roster.zipIdx g :=
    fun g => (hs.tallies g).trans (tallyOf_perm (visitOrder_perm roster) g)
  simp only [assign, hall, bind, Except.bind,
    StableSort.map_fst_mergeSort_of_perm (visitOrder_perm roster), due, summary, htallies,
    List.length_map, List.length_zipIdx]

/-- Otherwise the first row served that does not fit ends the run. -/
theorem assign_of_not_fits {u : Entry × Nat}
    (h : (visitOrder roster).find? (fun v => !decide (a.Fits roster prior current v)) = some u) :
    a.assign roster prior current = .error (.sequenceOverflow u.1.gender) := by
  simp only [assign, assignAll_of_not_fits rfl reached_start h, bind, Except.bind]

/-- In a run that succeeds every row that needs a new id fits. -/
theorem fits_of_assign {issue : Issue} (h : a.assign roster prior current = .ok issue) :
    ∀ u ∈ roster.zipIdx, a.Fits roster prior current u := by
  intro u hu
  by_contra hfit
  have hsome : ((visitOrder roster).find? fun v =>
      !decide (a.Fits roster prior current v)).isSome = true :=
    List.find?_isSome.mpr ⟨u, (visitOrder_perm roster).mem_iff.mpr hu, by simpa using hfit⟩
  obtain ⟨v, hv⟩ := Option.isSome_iff_exists.mp hsome
  rw [assign_of_not_fits hv] at h
  cases h

/-- A run that succeeds issues what is due. -/
theorem eq_due_of_assign {issue : Issue} (h : a.assign roster prior current = .ok issue) :
    issue = a.due roster prior current := by
  rw [assign_of_fits (fits_of_assign h), bind_eq_ok_iff] at h
  obtain ⟨-, -, h⟩ := h
  exact (pure_eq_ok_iff.mp h).symm

/-- A run that succeeds gives every row of the roster the id that the rules say, whatever the order
of the rows, and counts the rows of each gender by the origins of their ids. -/
theorem assign_expected {issue : Issue} (h : a.assign roster prior current = .ok issue) :
    issue.assignments = roster.zipIdx.map (a.expected roster prior current) ∧
    issue.summary.academicYear = a.academicYear ∧
    issue.summary.yearOffset = a.year ∧
    issue.summary.rows = roster.length ∧
    ∀ g, issue.summary.gender? g = some ⟨g, a.codes.code g,
        { next := a.firstFree current g + countFor issue.assignments g .minted
          reused := countFor issue.assignments g .priorYear
          minted := countFor issue.assignments g .minted
          memoized := countFor issue.assignments g .memoized }⟩ ∧
      countFor issue.assignments g .priorYear + countFor issue.assignments g .minted +
        countFor issue.assignments g .memoized = roster.countP (·.gender == g) := by
  rw [eq_due_of_assign h]
  refine ⟨rfl, rfl, rfl, rfl, fun g => ⟨gender?_due g, ?_⟩⟩
  rw [sum_countFor, countP_gender_due]

end

/-- Three students, of whom the one with the greatest id is listed again under another gender. -/
def relisted : List Entry :=
  [⟨1, .ofDigit 5, .female⟩, ⟨2, .ofDigit 3, .female⟩, ⟨3, .ofDigit 5, .male⟩,
    ⟨4, .ofDigit 4, .male⟩]

def heldIds : Prior := ⟨[(.ofDigit 4, "533570123")]⟩

def of1404 : Assigner := ⟨1404, 54, .standard⟩

theorem assign_of1404_relisted :
    of1404.assign relisted heldIds ["543730041"] =
      .ok (of1404.due relisted heldIds ["543730041"]) := by
  have hunique : ensureUnique (of1404.due relisted heldIds ["543730041"]).assignments = .ok () :=
    rfl
  rw [assign_of_fits (by decide), hunique]
  rfl

/-- A run in which ids are minted, reused and given again. -/
theorem assign_expected_relisted :
    ∃ issue, of1404.assign relisted heldIds ["543730041"] = .ok issue ∧
      issue.assignments.map (fun x => (x.id, x.origin)) =
        [("543730043", .minted), ("543730042", .minted), ("543730043", .memoized),
          ("533570123", .priorYear)] ∧
      issue.summary.gender? .male =
        some ⟨.male, 357, { next := 1, reused := 1, minted := 0, memoized := 1 }⟩ := by
  obtain ⟨hrows, -, -, -, hgenders⟩ := assign_expected assign_of1404_relisted
  refine ⟨_, assign_of1404_relisted, ?_, ?_⟩
  · rw [hrows]
    decide +kernel
  · rw [(hgenders .male).1]
    decide +kernel

end Assigner

end Mentorship.Registration
