import Mentorship.Proofs.Registration.Recording

/-! What the check of ids reports. It refuses a list exactly if some text is given to two students,
and then shows the first three of those who have a text that another student had first. After a run
that succeeds, a text therefore stands for a student. -/

namespace Mentorship.Registration

/-- The student who is the first in a list to have an id. -/
def firstHolder? (as : List Assignment) (id : String) : Option NationalId :=
  (as.find? (·.id == id)).map (·.nationalId)

/-- The assignments, in order, whose id another student had first. -/
def laterHolders (as : List Assignment) : List Assignment :=
  as.filter fun u => firstHolder? as u.id != some u.nationalId

section Reports
variable (as : List Assignment)

/-- Before the list nobody holds an id. -/
theorem holderOf_empty (id : String) : holderOf ∅ as id = firstHolder? as id := by
  rw [holderOf, firstHolder?, Dictionary.find?_empty, Option.none_or]

theorem clashes_eq : clashes as = (laterHolders as).map fun u => ⟨u.row, u.id⟩ := by
  rw [clashes, clashesAfter_eq, laterHolders]
  simp only [holderOf_empty]

theorem ensureUnique_eq : ensureUnique as =
    if laterHolders as = [] then .ok ()
    else .error (.sharedIds (((laterHolders as).take shownClashes).map fun u => ⟨u.row, u.id⟩)) := by
  rw [ensureUnique, clashes_eq, List.map_take]
  cases laterHolders as <;> rfl

theorem laterHolders_eq_nil_iff : laterHolders as = [] ↔
    ∀ u ∈ as, ∀ v ∈ as, u.id = v.id → u.nationalId = v.nationalId := by
  rw [← ensureUnique_eq_ok_iff, ensureUnique_eq]
  by_cases h : laterHolders as = [] <;> simp [h]

/-- A run gives the rows of one student one text, and those of two students two. -/
theorem Assigner.id_eq_iff_of_assign {a : Assigner} {roster : List Entry} {prior : Prior}
    {current : List String} {issue : Issue} {u v : Assignment}
    (h : a.assign roster prior current = .ok issue) (hu : u ∈ issue.assignments)
    (hv : v ∈ issue.assignments) : u.id = v.id ↔ u.nationalId = v.nationalId := by
  constructor
  · exact ensureUnique_eq_ok_iff.mp (ensureUnique_of_assign h) u hu v hv
  · intro hsame
    rw [eq_due_of_assign h] at hu hv
    obtain ⟨e, he, heu, hid⟩ := exists_of_mem_due hu
    obtain ⟨f, -, hfv, hid'⟩ := exists_of_mem_due hv
    rw [hid, hid']
    exact idOf_congr a roster prior current he (heu.trans (hsame.trans hfv.symm))

/-- The check passes exactly if no text is given to two students. Otherwise it reports, by row and
id, the first three in the list whose id another student had first. So the texts that a run gives
are the same exactly if the students are. -/
theorem ensureUnique_reports :
    (ensureUnique as = .ok () ↔
      ∀ u ∈ as, ∀ v ∈ as, u.id = v.id → u.nationalId = v.nationalId) ∧
    (∀ e, ensureUnique as = .error e ↔
      (∃ u ∈ as, ∃ v ∈ as, u.id = v.id ∧ u.nationalId ≠ v.nationalId) ∧
        e = .sharedIds (((laterHolders as).take 3).map fun u => ⟨u.row, u.id⟩)) ∧
    ∀ (a : Assigner) (roster : List Entry) (prior : Prior) (current : List String)
      (issue : Issue), a.assign roster prior current = .ok issue →
      ∀ u ∈ issue.assignments, ∀ v ∈ issue.assignments,
        (u.id = v.id ↔ u.nationalId = v.nationalId) := by
  refine ⟨ensureUnique_eq_ok_iff, fun e => ?_, fun a roster prior current issue h u hu v hv =>
    Assigner.id_eq_iff_of_assign h hu hv⟩
  have hshared : (∃ u ∈ as, ∃ v ∈ as, u.id = v.id ∧ u.nationalId ≠ v.nationalId) ↔
      laterHolders as ≠ [] := by
    rw [Ne, laterHolders_eq_nil_iff]
    simp only [not_forall, exists_prop, ne_eq]
  rw [hshared, ensureUnique_eq]
  by_cases h : laterHolders as = []
  · simp [h]
  · rw [if_neg h, Except.error.injEq, eq_comm, shownClashes]
    exact ⟨fun he => ⟨h, he⟩, And.right⟩

end Reports

/-- Two ids that change hands, the first of them three times and back in between. -/
def crossed : List Assignment :=
  [⟨1, .ofDigit 1, .male, "543570001", .minted⟩,
    ⟨2, .ofDigit 2, .male, "543570001", .priorYear⟩,
    ⟨3, .ofDigit 1, .male, "543570001", .memoized⟩,
    ⟨4, .ofDigit 3, .male, "543570002", .minted⟩,
    ⟨5, .ofDigit 1, .male, "543570002", .priorYear⟩,
    ⟨6, .ofDigit 3, .male, "543570001", .priorYear⟩,
    ⟨7, .ofDigit 2, .male, "543570001", .memoized⟩]

/-- Four clash, of whom three are shown; in a run that succeeds the one text that is given twice is
given to one student. -/
theorem ensureUnique_reports_crossed :
    ensureUnique crossed =
      .error (.sharedIds [⟨2, "543570001"⟩, ⟨5, "543570002"⟩, ⟨6, "543570001"⟩]) ∧
    ∃ issue, Assigner.of1404.assign Assigner.relisted Assigner.heldIds ["543730041"] = .ok issue ∧
      ∀ u ∈ issue.assignments, ∀ v ∈ issue.assignments,
        (u.id = v.id ↔ u.nationalId = v.nationalId) := by
  obtain ⟨-, herror, hrun⟩ := ensureUnique_reports crossed
  refine ⟨(herror _).mpr ⟨by decide, by decide⟩, _,
    Assigner.assign_of1404_relisted, ?_⟩
  exact hrun _ _ _ _ _ Assigner.assign_of1404_relisted

end Mentorship.Registration
