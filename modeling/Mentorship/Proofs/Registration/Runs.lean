import Mentorship.Registration.History

/-! Runs one after another. The result of a run depends on the runs before it through the records
alone, and where every run adds the ids that it gives to those of the current year, these are what
there was at the start and what the runs gave. -/

namespace Mentorship.Registration

open Policy (GenderCodes)

namespace Records

variable {codes : GenderCodes} {r : Records} {x : Run} {xs : List Run} {issue : Issue} {i : Nat}

/-! ### One run -/

theorem step_fst : (r.step codes x).1 = r.issue codes x := by
  rw [step]
  cases r.issue codes x <;> rfl

theorem issue_of_offset?_eq_none (h : Year.offset? x.academicYear = none) :
    r.issue codes x = .error (.invalidYear x.academicYear) := by
  rw [issue, Assigner.ofYear, h]
  rfl

theorem issue_of_offset?_eq_some {year : Nat} (h : Year.offset? x.academicYear = some year) :
    r.issue codes x =
      Assigner.assign ⟨x.academicYear, year, codes⟩ x.roster r.prior r.current := by
  rw [issue, Assigner.ofYear, h]
  rfl

/-- A run succeeds if its year can be written and the assignment succeeds. -/
theorem issue_eq_ok_iff : r.issue codes x = .ok issue ↔
    ∃ year, Year.offset? x.academicYear = some year ∧
      Assigner.assign ⟨x.academicYear, year, codes⟩ x.roster r.prior r.current = .ok issue := by
  cases hyear : Year.offset? x.academicYear with
  | none => simp [issue_of_offset?_eq_none hyear]
  | some year => simp [issue_of_offset?_eq_some hyear]

/-! ### The runs before -/

/-- The result of a run is that of the run on the records so far. -/
theorem getElem?_run :
    (r.run codes xs).1[i]? = xs[i]?.map ((r.run codes (xs.take i)).2.issue codes) := by
  induction xs generalizing r i with
  | nil => rfl
  | cons x xs ih =>
    cases i with
    | zero => simp [run, step_fst]
    | succ i => simp [run, ih]

theorem take_run : (r.run codes xs).1.take i = (r.run codes (xs.take i)).1 := by
  induction xs generalizing r i with
  | nil => simp [run]
  | cons x xs ih =>
    cases i with
    | zero => rfl
    | succ i => simp [run, ih]

/-! ### Ids of the current year -/

/-- The texts of the ids that runs gave. -/
def givenIds (results : List (Except Error Issue)) : List String :=
  results.flatMap fun
    | .ok issue => issue.assignments.map (·.id)
    | .error _ => []

/-- A run that records its ids records all of them, and none if it fails. -/
theorem current_step (hx : x.carry = .current) :
    (r.step codes x).2.current = r.current ++ givenIds [(r.step codes x).1] := by
  rw [step]
  cases r.issue codes x with
  | error e => simp [givenIds]
  | ok issue => simp [givenIds, hx, record]

theorem givenIds_cons (result : Except Error Issue) (results : List (Except Error Issue)) :
    givenIds (result :: results) = givenIds [result] ++ givenIds results := by
  simp [givenIds]

theorem current_run (h : ∀ x ∈ xs, x.carry = .current) :
    (r.run codes xs).2.current = r.current ++ givenIds (r.run codes xs).1 := by
  induction xs generalizing r with
  | nil => exact (List.append_nil _).symm
  | cons x xs ih =>
    rw [List.forall_mem_cons] at h
    simp only [run]
    rw [ih h.2, current_step h.1, List.append_assoc, ← givenIds_cons]

/-- What was on record at the start stays there. -/
theorem mem_current_of_start (h : ∀ x ∈ xs, x.carry = .current) {s : String} (hs : s ∈ r.current) :
    s ∈ (r.run codes (xs.take i)).2.current := by
  rw [current_run fun x hx => h x (List.mem_of_mem_take hx)]
  exact List.mem_append_left _ hs

/-- What an earlier run gave is on record. -/
theorem mem_current_of_earlier (h : ∀ x ∈ xs, x.carry = .current) {j : Nat} (hj : j < i)
    (hissue : (r.run codes xs).1[j]? = some (.ok issue)) {u : Assignment}
    (hu : u ∈ issue.assignments) : u.id ∈ (r.run codes (xs.take i)).2.current := by
  rw [current_run fun x hx => h x (List.mem_of_mem_take hx), ← take_run]
  have hresult : Except.ok issue ∈ (r.run codes xs).1.take i :=
    List.mem_of_getElem? ((List.getElem?_take_of_lt hj).trans hissue)
  exact List.mem_append_right _ (List.mem_flatMap.mpr ⟨_, hresult, List.mem_map_of_mem hu⟩)

end Records

end Mentorship.Registration
