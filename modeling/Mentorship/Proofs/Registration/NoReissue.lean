import Mentorship.Proofs.Registration.Runs
import Mentorship.Proofs.Registration.Uniqueness

/-! No registration id is issued twice. A new id lies above every id on record for its year and
gender, and when every run adds the ids that it gives to the record, all later runs start above
them. A run that fails leaves the record as it was. -/

namespace Mentorship.Registration

open Policy (Gender GenderCodes isThreeDigits)

/-! ### One run -/

theorem Year.lt_of_offset? {academicYear year : Nat}
    (h : offset? academicYear = some year) : year < 10 ^ 2 := by
  simp only [offset?, Option.ite_none_right_eq_some, Option.some.injEq, Bool.and_eq_true,
    decide_eq_true_eq] at h
  omega

namespace Assigner

variable {a : Assigner} {roster : List Entry} {prior : Prior} {current : List String}
variable {issue : Issue} {u v : Assignment} {g : Gender} {n : Nat} {x : Id}

theorem lt_firstFree (h : n ∈ a.issued current g) : n < a.firstFree current g := by
  rw [firstFree]
  cases hmax : (a.issued current g).max? with
  | none =>
    rw [List.max?_eq_none_iff] at hmax
    simp [hmax] at h
  | some m =>
    have hle := (List.max?_eq_some_iff.mp hmax).2 n h
    exact Nat.lt_succ_of_le hle

/-- A new id is written with a free sequence of four digits. -/
theorem exists_of_minted (h : a.assign roster prior current = .ok issue)
    (hu : u ∈ issue.assignments) (hminted : u.origin = .minted) :
    ∃ g n, a.firstFree current g ≤ n ∧ n ≤ Id.greatestSequence ∧
      u.id = Id.render ⟨a.year, a.codes.code g, n⟩ := by
  have hfits := fits_of_assign h
  rw [eq_due_of_assign h, due, List.mem_map] at hu
  obtain ⟨w, hw, rfl⟩ := hu
  obtain ⟨-, hp⟩ := originOf_eq_minted_iff.mp hminted
  refine ⟨firstGender roster w.1, a.sequenceOf roster prior current w.1,
    Nat.le_add_right _ _, hfits w hw hminted, ?_⟩
  simp only [expected, idOf, hp, Option.getD_none]

/-- A new id is none of those on record. -/
theorem minted_not_issued (hyear : a.year < 10 ^ 2) (hcodes : ∀ g, a.codes.code g < 10 ^ 3)
    (h : a.assign roster prior current = .ok issue) (hu : u ∈ issue.assignments)
    (hminted : u.origin = .minted) :
    ∃ x, Id.ofText? u.id = some x ∧ ∀ s ∈ current, Id.ofText? s ≠ some x := by
  obtain ⟨g, n, hfree, hfits, hid⟩ := exists_of_minted h hu hminted
  have hnine : Id.NineDigits ⟨a.year, a.codes.code g, n⟩ :=
    ⟨hyear, hcodes g, Nat.lt_succ_of_le hfits⟩
  refine ⟨_, hid ▸ Id.ofText?_render hnine, fun s hs hread => ?_⟩
  have hissued : n ∈ a.issued current g := by
    rw [issued, List.mem_map]
    refine ⟨_, List.mem_filter.mpr ⟨List.mem_filterMap.mpr ⟨s, hs, hread⟩, ?_⟩, rfl⟩
    simp [Id.belongsTo]
  exact Nat.not_lt.mpr hfree (lt_firstFree hissued)

theorem eq_render_of_minted (h : a.assign roster prior current = .ok issue)
    (hu : u ∈ issue.assignments) (hminted : u.origin = .minted) (hread : Id.ofText? u.id = some x) :
    u.id = x.render := by
  obtain ⟨g, n, -, -, hid⟩ := exists_of_minted h hu hminted
  rw [hid] at hread ⊢
  exact Id.render_eq_of_ofText?_render hread

/-- Different students get different new ids. -/
theorem minted_not_shared (h : a.assign roster prior current = .ok issue)
    (hu : u ∈ issue.assignments) (hv : v ∈ issue.assignments) (hminted : u.origin = .minted)
    (hminted' : v.origin = .minted) (hne : v.nationalId ≠ u.nationalId)
    (hread : Id.ofText? u.id = some x) : Id.ofText? v.id ≠ some x := by
  intro hread'
  have htexts : v.id = u.id :=
    (eq_render_of_minted h hv hminted' hread').trans
      (eq_render_of_minted h hu hminted hread).symm
  exact hne (ensureUnique_eq_ok_iff.mp (ensureUnique_of_assign h) v hv u hu htexts)

end Assigner

/-! ### Runs in turn -/

namespace Records

variable {codes : GenderCodes} {r : Records} {xs : List Run} {issue : Issue} {i : Nat}

/-- If every run adds the ids that it gives to the record, then a new id is neither on record at the
start nor given in an earlier run, and it is not given to two students of one run. -/
theorem run_minted_once (hcodes : ∀ g, isThreeDigits (codes.code g) = true)
    (hcarry : ∀ x ∈ xs, x.carry = .current) (hi : (r.run codes xs).1[i]? = some (.ok issue))
    {u : Assignment} (hu : u ∈ issue.assignments) (hminted : u.origin = .minted) :
    ∃ n, Id.ofText? u.id = some n ∧
      (∀ s ∈ r.current, Id.ofText? s ≠ some n) ∧
      (∀ j < i, ∀ earlier, (r.run codes xs).1[j]? = some (.ok earlier) →
        ∀ v ∈ earlier.assignments, Id.ofText? v.id ≠ some n) ∧
      ∀ v ∈ issue.assignments, v.origin = .minted → v.nationalId ≠ u.nationalId →
        Id.ofText? v.id ≠ some n := by
  rw [getElem?_run, Option.map_eq_some_iff] at hi
  obtain ⟨x, hx, hissue⟩ := hi
  obtain ⟨year, hyear, hassign⟩ := issue_eq_ok_iff.mp hissue
  have hwidth : ∀ g, codes.code g < 10 ^ 3 := fun g => by
    have := hcodes g
    simp only [isThreeDigits, Bool.and_eq_true, decide_eq_true_eq] at this
    omega
  obtain ⟨n, hread, hnew⟩ := Assigner.minted_not_issued (Year.lt_of_offset? hyear) hwidth
    hassign hu hminted
  refine ⟨n, hread, ?_, ?_, ?_⟩
  · intro s hs
    exact hnew s (mem_current_of_start hcarry hs)
  · intro j hj earlier hearlier v hv
    exact hnew v.id (mem_current_of_earlier hcarry hj hearlier hv)
  · intro v hv hminted' hne
    exact Assigner.minted_not_shared hassign hu hv hminted hminted' hne hread

/-- A student who comes late. -/
def late : List Entry :=
  [⟨1, .ofDigit 1, .female⟩]

/-- Three runs, of which the second has a year that ids cannot be written for. -/
def lateRuns : List Run :=
  [⟨1404, Assigner.relisted, .current⟩, ⟨1500, late, .current⟩, ⟨1404, late, .current⟩]

def lateStart : Records :=
  ⟨Assigner.heldIds, ["543730041"]⟩

/-- The records after the first run, and so after the second. -/
def lateRecords : Records :=
  ⟨Assigner.heldIds, ["543730041", "543730043", "543730042", "543730043", "533570123"]⟩

theorem run_take_lateRuns : (lateStart.run .standard (lateRuns.take 2)).2 = lateRecords := by
  have hissue : lateStart.issue .standard ⟨1404, Assigner.relisted, .current⟩ =
      .ok (Assigner.of1404.due Assigner.relisted Assigner.heldIds ["543730041"]) :=
    Assigner.assign_of1404_relisted
  have hfirst : (lateStart.step .standard ⟨1404, Assigner.relisted, .current⟩).2 = lateRecords := by
    rw [step, hissue]
    rfl
  have hsecond : (lateRecords.step .standard ⟨1500, late, .current⟩).2 = lateRecords := rfl
  simp only [lateRuns, List.take, run, hfirst, hsecond]

theorem issue_late : lateRecords.issue .standard ⟨1404, late, .current⟩ =
    .ok (Assigner.of1404.due late lateRecords.prior lateRecords.current) := by
  have hunique : ensureUnique
      (Assigner.of1404.due late lateRecords.prior lateRecords.current).assignments = .ok () := rfl
  change Assigner.of1404.assign late lateRecords.prior lateRecords.current = _
  rw [Assigner.assign_of_fits (by decide), hunique]
  rfl

/-- A late student gets the id above those that the first run gave. -/
theorem run_minted_once_late :
    (∀ g, isThreeDigits (GenderCodes.standard.code g) = true) ∧
    (∀ x ∈ lateRuns, x.carry = .current) ∧
    ∃ issue, (lateStart.run .standard lateRuns).1[2]? = some (.ok issue) ∧
      ∃ u ∈ issue.assignments, u.origin = .minted ∧ u.id = "543730044" ∧
        ∃ n, Id.ofText? u.id = some n ∧ (∀ s ∈ lateStart.current, Id.ofText? s ≠ some n) ∧
          ∀ j < 2, ∀ earlier, (lateStart.run .standard lateRuns).1[j]? = some (.ok earlier) →
            ∀ v ∈ earlier.assignments, Id.ofText? v.id ≠ some n := by
  have hcodes : ∀ g, isThreeDigits (GenderCodes.standard.code g) = true := by
    intro g
    cases g <;> rfl
  have hcarry : ∀ x ∈ lateRuns, x.carry = .current := by simp [lateRuns]
  have hresult : (lateStart.run .standard lateRuns).1[2]? =
      some (.ok (Assigner.of1404.due late lateRecords.prior lateRecords.current)) := by
    rw [getElem?_run, run_take_lateRuns, ← issue_late]
    rfl
  have hu : (Assigner.of1404.due late lateRecords.prior lateRecords.current).assignments =
      [⟨1, .ofDigit 1, .female, "543730044", .minted⟩] := rfl
  have hmem := hu.symm ▸ List.mem_cons_self
  obtain ⟨n, hread, hstart, hearlier, -⟩ := run_minted_once hcodes hcarry hresult hmem rfl
  exact ⟨hcodes, hcarry, _, hresult, _, hmem, rfl, rfl, n, hread, hstart, hearlier⟩

end Records

end Mentorship.Registration
