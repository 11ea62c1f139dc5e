import Mentorship.Proofs.Registration.NoReissue
import Mentorship.Proofs.Registration.Recording

/-! Runs of different years. Each run records the ids that it gives as those of the prior year, and
the next run starts from them. As long as no id on record is written as one of a year to come, no
two students ever have one id, no run meets a clash, and a student who is on record once gets the
same id in every later run. -/

namespace Mentorship.Registration

open Policy (Gender GenderCodes isThreeDigits)

/-! ### Years and codes -/

/-- Different academic years are written differently. -/
theorem Year.eq_of_offset?_eq {y z year : Nat} (hy : offset? y = some year)
    (hz : offset? z = some year) : y = z := by
  simp only [offset?, Option.ite_none_right_eq_some, Option.some.injEq, Bool.and_eq_true,
    decide_eq_true_eq] at hy hz
  omega

theorem Assigner.inOrder_of_codes {codes : GenderCodes} {academicYear year : Nat}
    (hcodes : ∀ g, isThreeDigits (codes.code g) = true) (hne : codes.female ≠ codes.male)
    (hyear : Year.offset? academicYear = some year) :
    Assigner.InOrder ⟨academicYear, year, codes⟩ where
  year := Year.lt_of_offset? hyear
  code g := by
    have := hcodes g
    simp only [isThreeDigits, Bool.and_eq_true, decide_eq_true_eq] at this
    change codes.code g < 10 ^ 3
    omega
  code_injective g g' h := by
    cases g <;> cases g'
    · rfl
    · exact absurd h hne
    · exact absurd h.symm hne
    · rfl

/-! ### Runs that record their ids for the next year -/

/-- A run of some year, with the ids issued in that year before. -/
structure YearlyRun where
  academicYear : Nat
  roster : List Entry
  current : List String

namespace YearlyRun

/-- The run proper, which records its ids as those of the prior year. -/
def toRun (x : YearlyRun) : Run :=
  ⟨x.academicYear, x.roster, .prior⟩

/-- The result of a run, and the ids of the prior year after it. -/
def step (codes : GenderCodes) (prior : Prior) (x : YearlyRun) : Except Error Issue × Prior :=
  let (result, r) := Records.step codes ⟨prior, x.current⟩ x.toRun
  (result, r.prior)

def run (codes : GenderCodes) (prior : Prior) :
    List YearlyRun → List (Except Error Issue) × Prior
  | [] => ([], prior)
  | x :: xs =>
    let (result, prior) := step codes prior x
    let (results, prior) := run codes prior xs
    (result :: results, prior)

variable {codes : GenderCodes} {prior : Prior} {x : YearlyRun} {xs : List YearlyRun} {i : Nat}

/-- The result of a run is that of its own step on what is on record by then. -/
theorem getElem?_run : (run codes prior xs).1[i]? =
    xs[i]?.map fun x => (step codes (run codes prior (xs.take i)).2 x).1 := by
  induction xs generalizing prior i with
  | nil => rfl
  | cons x xs ih =>
    cases i with
    | zero => rfl
    | succ i => simp [run, ih]

theorem run_append (ys : List YearlyRun) :
    (run codes prior (xs ++ ys)).2 = (run codes (run codes prior xs).2 ys).2 := by
  induction xs generalizing prior with
  | nil => rfl
  | cons x xs ih => simp [run, ih]

/-! ### One run -/

/-- What runs find that are still to come: the ids on record are of different students, and none of
them is written as one of the years of the runs, which differ. -/
structure Settled (prior : Prior) (xs : List YearlyRun) : Prop where
  nodup : (xs.map (·.academicYear)).Nodup
  isInjective : prior.IsInjective
  isFreeOf : ∀ x ∈ xs, ∀ year, Year.offset? x.academicYear = some year → prior.IsFreeOf year

section Step
variable (hcodes : ∀ g, isThreeDigits (codes.code g) = true) (hne : codes.female ≠ codes.male)
variable (h : Settled prior (x :: xs))

include hcodes hne h in
/-- A run fails without a clash and leaves what is on record, or it issues and records what is
due. -/
theorem step_cases :
    (∃ e, (∀ cs, e ≠ .sharedIds cs) ∧ step codes prior x = (.error e, prior)) ∨
    ∃ a : Assigner, a.InOrder ∧ Year.offset? x.academicYear = some a.year ∧
      (∀ u ∈ x.roster.zipIdx, a.Fits x.roster prior x.current u) ∧
      step codes prior x = (.ok (a.due x.roster prior x.current),
        prior.putAll (a.due x.roster prior x.current).assignments) := by
  cases hyear : Year.offset? x.academicYear with
  | none =>
    have hissue : Records.issue codes ⟨prior, x.current⟩ x.toRun =
        .error (.invalidYear x.academicYear) := Records.issue_of_offset?_eq_none hyear
    refine .inl ⟨.invalidYear x.academicYear, by simp, ?_⟩
    simp only [step, Records.step, hissue]
  | some year =>
    let a : Assigner := ⟨x.academicYear, year, codes⟩
    have ha : a.InOrder := Assigner.inOrder_of_codes hcodes hne hyear
    have hissue : Records.issue codes ⟨prior, x.current⟩ x.toRun =
        a.assign x.roster prior x.current := Records.issue_of_offset?_eq_some hyear
    cases hfind : (Assigner.visitOrder x.roster).find?
        (fun v => !decide (a.Fits x.roster prior x.current v)) with
    | some u =>
      -- the run stops here, before it looks for clashes
      refine .inl ⟨.sequenceOverflow u.1.gender, by simp, ?_⟩
      simp [step, Records.step, hissue, Assigner.assign_of_not_fits hfind]
    | none =>
      have hfit : ∀ u ∈ x.roster.zipIdx, a.Fits x.roster prior x.current u := by
        intro u hu
        have hnone := List.find?_eq_none.mp hfind u
          ((Assigner.visitOrder_perm x.roster).mem_iff.mpr hu)
        simpa using hnone
      have hunique := h.isInjective.ensureUnique_due ha hfit
        (h.isFreeOf x List.mem_cons_self year hyear)
      refine .inr ⟨a, ha, rfl, hfit, ?_⟩
      simp only [step, Records.step, hissue, Assigner.assign_of_fits hfit, hunique]
      rfl

include hcodes hne h in
/-- The runs after a run find what the run itself found. -/
theorem Settled.step : Settled (step codes prior x).2 xs := by
  have hnodup := h.nodup
  rw [List.map_cons, List.nodup_cons] at hnodup
  obtain ⟨hnew, hnodup⟩ := hnodup
  have hfree := List.forall_mem_cons.mp h.isFreeOf
  rcases step_cases hcodes hne h with ⟨e, -, hstep⟩ | ⟨a, ha, hyear, hfit, hstep⟩ <;> rw [hstep]
  · exact ⟨hnodup, h.isInjective, hfree.2⟩
  · refine ⟨hnodup, h.isInjective.putAll_due ha hfit (hfree.1 _ hyear), ?_⟩
    intro y hy year hy'
    refine (hfree.2 y hy year hy').putAll_due ha hfit ?_
    rintro rfl
    exact hnew (Year.eq_of_offset?_eq hyear hy' ▸ List.mem_map_of_mem hy)

include hcodes hne h in
/-- An id on record stays there, and it is what its student gets. -/
theorem find?_step {n : NationalId} {id : String} (hid : prior.find? n = some id) :
    (YearlyRun.step codes prior x).2.find? n = some id ∧
      ∀ issue, (YearlyRun.step codes prior x).1 = .ok issue →
        ∀ u ∈ issue.assignments, u.nationalId = n → u.id = id := by
  rcases step_cases hcodes hne h with ⟨e, -, hstep⟩ | ⟨a, -, -, -, hstep⟩ <;> rw [hstep]
  · exact ⟨hid, fun issue hissue => by cases hissue⟩
  · have hkept : (prior.putAll (a.due x.roster prior x.current).assignments).find? n = some id :=
      Assigner.find?_putAll_due_eq_some_iff.mpr (.inl hid)
    refine ⟨hkept, fun issue hissue u hu hn => ?_⟩
    cases hissue
    have hrecorded := Assigner.find?_putAll_due hu
    rw [hn, hkept, Option.some.injEq] at hrecorded
    exact hrecorded.symm

end Step

/-! ### All runs -/

section Run
variable (hcodes : ∀ g, isThreeDigits (codes.code g) = true) (hne : codes.female ≠ codes.male)
variable {ys : List YearlyRun}

include hcodes hne in
theorem Settled.run (h : Settled prior (xs ++ ys)) : Settled (run codes prior xs).2 ys := by
  induction xs generalizing prior with
  | nil => exact h
  | cons x xs ih => exact ih (h.step hcodes hne)

include hcodes hne in
theorem find?_run (h : Settled prior (xs ++ ys)) {n : NationalId} {id : String}
    (hid : prior.find? n = some id) : (YearlyRun.run codes prior xs).2.find? n = some id := by
  induction xs generalizing prior with
  | nil => exact hid
  | cons x xs ih => exact ih (h.step hcodes hne) (find?_step hcodes hne h hid).1

include hcodes hne in
/-- The run at a place finds what the first one found. -/
theorem Settled.getElem?_run (h : Settled prior xs) {result : Except Error Issue}
    (hi : (YearlyRun.run codes prior xs).1[i]? = some result) :
    ∃ x, Settled (YearlyRun.run codes prior (xs.take i)).2 (x :: xs.drop (i + 1)) ∧
      (YearlyRun.step codes (YearlyRun.run codes prior (xs.take i)).2 x).1 = result := by
  rw [YearlyRun.getElem?_run, Option.map_eq_some_iff] at hi
  obtain ⟨x, hx, hresult⟩ := hi
  obtain ⟨hlt, hget⟩ := List.getElem?_eq_some_iff.mp hx
  have hdrop : xs.drop i = x :: xs.drop (i + 1) := by rw [List.drop_eq_getElem_cons hlt, hget]
  rw [← List.take_append_drop i xs, hdrop] at h
  exact ⟨x, h.run hcodes hne, hresult⟩

end Run

/-- Let runs of different years record their ids for the next year, and let the ids on record at the
start be of different students and none of them written as one of the runs' years. Then the ids on
record before and after every run are of different students, no run meets a clash, and a student who
is on record gets that id in all later runs that succeed. -/
theorem run_ids_last (hcodes : ∀ g, isThreeDigits (codes.code g) = true)
    (hne : codes.female ≠ codes.male) (hyears : (xs.map (·.academicYear)).Nodup)
    (hinj : prior.IsInjective)
    (hfree : ∀ x ∈ xs, ∀ year, Year.offset? x.academicYear = some year → prior.IsFreeOf year)
    (i : Nat) :
    (run codes prior (xs.take i)).2.IsInjective ∧
    (∀ cs, (run codes prior xs).1[i]? ≠ some (.error (.sharedIds cs))) ∧
    ∀ n id, (run codes prior (xs.take i)).2.find? n = some id →
      ∀ j issue, i ≤ j → (run codes prior xs).1[j]? = some (.ok issue) →
        ∀ u ∈ issue.assignments, u.nationalId = n → u.id = id := by
  have hstart : Settled prior xs := ⟨hyears, hinj, hfree⟩
  have hturn : Settled (run codes prior (xs.take i)).2 (xs.drop i) :=
    Settled.run hcodes hne (by rwa [List.take_append_drop])
  refine ⟨hturn.isInjective, fun cs hclash => ?_, fun n id hid j issue hij hj u hu hn => ?_⟩
  · obtain ⟨x, hsettled, hstep⟩ := hstart.getElem?_run hcodes hne hclash
    rcases step_cases hcodes hne hsettled with ⟨e, he, hcase⟩ | ⟨a, -, -, -, hcase⟩ <;>
      rw [hcase] at hstep <;> cases hstep
    exact he cs rfl
  · obtain ⟨x, hsettled, hstep⟩ := hstart.getElem?_run hcodes hne hj
    have hbetween : xs.take j = xs.take i ++ (xs.drop i).take (j - i) := by
      rw [← List.take_add, Nat.add_sub_cancel' hij]
    have hkept : (run codes prior (xs.take j)).2.find? n = some id := by
      rw [hbetween, run_append]
      exact find?_run hcodes hne (by rwa [List.take_append_drop]) hid
    exact (find?_step hcodes hne hsettled hkept).2 issue hstep u hu hn

/-! ### Two years -/

/-- A student who comes back after a year, and a newcomer with a smaller national id. -/
def returning : List Entry :=
  [⟨1, .ofDigit 5, .female⟩, ⟨2, .ofDigit 1, .female⟩]

def twoYears : List YearlyRun :=
  [⟨1404, Assigner.relisted, ["543730041"]⟩, ⟨1405, returning, ["553730006"]⟩]

/-- What is on record after the first year. -/
def recordedIds : Prior :=
  ⟨[(.ofDigit 3, "543730042"), (.ofDigit 4, "533570123"), (.ofDigit 5, "543730043")]⟩

theorem of_find?_heldIds {x : NationalId} {id : String} (h : Assigner.heldIds.find? x = some id) :
    x = .ofDigit 4 ∧ id = "533570123" := by
  rw [Dictionary.find?, Assigner.heldIds, Dictionary.lookup_cons_ite] at h
  split at h
  · rename_i hx
    exact ⟨hx, (Option.some.inj h).symm⟩
  · cases h

/-- The id on record is written as one of another year. -/
theorem isFreeOf_heldIds {year : Nat} (h : year ≠ 53) : Assigner.heldIds.IsFreeOf year := by
  intro x id hx n hn hyear hid
  have hread : Id.ofText? "533570123" = some ⟨53, 357, 123⟩ := rfl
  rw [← (of_find?_heldIds hx).2, hid, Id.ofText?_render hn, Option.some.injEq] at hread
  rw [hread] at hyear
  exact h hyear.symm

theorem step_firstYear :
    step .standard Assigner.heldIds ⟨1404, Assigner.relisted, ["543730041"]⟩ =
      (.ok (Assigner.of1404.due Assigner.relisted Assigner.heldIds ["543730041"]),
        recordedIds) := by
  have hissue : Records.issue .standard ⟨Assigner.heldIds, ["543730041"]⟩
      ⟨1404, Assigner.relisted, .prior⟩ =
      .ok (Assigner.of1404.due Assigner.relisted Assigner.heldIds ["543730041"]) :=
    Assigner.assign_of1404_relisted
  simp only [step, toRun, Records.step, hissue]
  rfl

def of1405 : Assigner := ⟨1405, 55, .standard⟩

theorem step_secondYear :
    (step .standard recordedIds ⟨1405, returning, ["553730006"]⟩).1 =
      .ok (of1405.due returning recordedIds ["553730006"]) := by
  have hunique : ensureUnique (of1405.due returning recordedIds ["553730006"]).assignments =
      .ok () := rfl
  have hissue : Records.issue .standard ⟨recordedIds, ["553730006"]⟩ ⟨1405, returning, .prior⟩ =
      .ok (of1405.due returning recordedIds ["553730006"]) := by
    change of1405.assign returning recordedIds ["553730006"] = _
    rw [Assigner.assign_of_fits (by decide), hunique]
    rfl
  simp only [step, toRun, Records.step, hissue]

/-- The student who comes back keeps the id of the first year, and the newcomer gets one of the
second. -/
theorem run_ids_last_twoYears :
    (∀ g, isThreeDigits (GenderCodes.standard.code g) = true) ∧
    GenderCodes.standard.female ≠ GenderCodes.standard.male ∧
    (twoYears.map (·.academicYear)).Nodup ∧
    Assigner.heldIds.IsInjective ∧
    (∀ x ∈ twoYears, ∀ year, Year.offset? x.academicYear = some year →
      Assigner.heldIds.IsFreeOf year) ∧
    (run .standard Assigner.heldIds (twoYears.take 1)).2.IsInjective ∧
    (run .standard Assigner.heldIds (twoYears.take 1)).2.find? (.ofDigit 5) =
      some "543730043" ∧
    ∃ issue, (run .standard Assigner.heldIds twoYears).1[1]? = some (.ok issue) ∧
      issue.assignments.map (·.id) = ["543730043", "553730007"] ∧
      ∀ u ∈ issue.assignments, u.nationalId = .ofDigit 5 → u.id = "543730043" := by
  have hcodes : ∀ g, isThreeDigits (GenderCodes.standard.code g) = true := by
    intro g
    cases g <;> rfl
  have hne : GenderCodes.standard.female ≠ GenderCodes.standard.male := by decide
  have hyears : (twoYears.map (·.academicYear)).Nodup := by decide
  have hinj : Assigner.heldIds.IsInjective := fun x y id hx hy =>
    (of_find?_heldIds hx).1.trans (of_find?_heldIds hy).1.symm
  have hfree : ∀ x ∈ twoYears, ∀ year, Year.offset? x.academicYear = some year →
      Assigner.heldIds.IsFreeOf year := by
    intro x hx year hyear
    refine isFreeOf_heldIds ?_
    rintro rfl
    simp only [twoYears, List.mem_cons, List.not_mem_nil, or_false] at hx
    rcases hx with rfl | rfl <;> simp [Year.offset?, Year.base] at hyear
  have hrecorded : (run .standard Assigner.heldIds (twoYears.take 1)).2 = recordedIds := by
    simp only [twoYears, List.take, run, step_firstYear]
  have hresult : (run .standard Assigner.heldIds twoYears).1[1]? =
      some (.ok (of1405.due returning recordedIds ["553730006"])) := by
    rw [getElem?_run, hrecorded, ← step_secondYear]
    rfl
  have hfound : (run .standard Assigner.heldIds (twoYears.take 1)).2.find? (.ofDigit 5) =
      some "543730043" := by
    rw [hrecorded]
    rfl
  obtain ⟨hafter, -, hkept⟩ := run_ids_last hcodes hne hyears hinj hfree 1
  exact ⟨hcodes, hne, hyears, hinj, hfree, hafter, hfound, _, hresult, by decide +kernel,
    hkept _ _ hfound 1 _ (Nat.le_refl 1) hresult⟩

end YearlyRun

end Mentorship.Registration
