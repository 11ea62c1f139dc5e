import Mentorship.Proofs.Arrangement
import Mentorship.Proofs.Registration.Uniqueness

/-! The order of the rows does not decide ids. If a roster is put in another order that keeps the
rows of each student in theirs, the students are served as before: only the places that the rows
carry along are others. So the runs do the same, up to the order of what they issue. Nor does the
order of the ids issued already matter, of which only the greatest sequences count. -/

namespace Mentorship.Registration

open Arrangement (arrange formerPlace toFormer)
open Policy (Gender)

/-- Whether an order of places keeps the rows that share a national id in theirs. -/
def KeepsOrder (roster : List Entry) (places : List Nat) : Prop :=
  places.Pairwise fun i j =>
    roster[i]?.map (·.nationalId) = roster[j]?.map (·.nationalId) → i < j

instance (roster : List Entry) (places : List Nat) : Decidable (KeepsOrder roster places) :=
  inferInstanceAs (Decidable (places.Pairwise _))

/-- The check sees who holds which ids, not in which order they stand. -/
theorem ensureUnique_of_perm {as bs : List Assignment} (h : as.Perm bs) :
    ensureUnique as = .ok () ↔ ensureUnique bs = .ok () := by
  simp only [ensureUnique_eq_ok_iff, h.mem_iff]

theorem ensureUnique_cases (as : List Assignment) :
    ensureUnique as = .ok () ∨ ∃ cs, ensureUnique as = .error (.sharedIds cs) := by
  rw [ensureUnique]
  split
  · exact .inl rfl
  · exact .inr ⟨_, rfl⟩

namespace Assigner

/-! ### The order of visits -/

section Visits
variable {roster : List Entry} {places : List Nat}
variable (hplaces : places.Perm (List.range roster.length))

include hplaces in
/-- The row now at a place, by the place where it stood. -/
theorem exists_of_mem_visitOrder_arrange {u : Entry × Nat}
    (hu : u ∈ visitOrder (arrange places roster)) :
    ∃ i, places[u.2]? = some i ∧ formerPlace places u.2 = i ∧ roster[i]? = some u.1 := by
  have hin : ∀ i ∈ places, i < roster.length :=
    fun i hi => List.mem_range.mp (hplaces.subset hi)
  rw [mem_visitOrder, Arrangement.getElem?_arrange hin, Option.bind_eq_some_iff] at hu
  obtain ⟨i, hi, hget⟩ := hu
  exact ⟨i, hi, by rw [formerPlace, hi, Option.getD_some], hget⟩

include hplaces in
/-- A row served before another is so by the places where they stood. -/
theorem servedBefore_toFormer (hkeep : KeepsOrder roster places) {u v : Entry × Nat}
    (hu : u ∈ visitOrder (arrange places roster)) (hv : v ∈ visitOrder (arrange places roster))
    (h : ServedBefore u v) : ServedBefore (toFormer places u) (toFormer places v) := by
  rcases h with hlt | ⟨hid, hlt⟩
  · exact .inl hlt
  · obtain ⟨i, hi, hui, hget⟩ := exists_of_mem_visitOrder_arrange hplaces hu
    obtain ⟨j, hj, hvj, hget'⟩ := exists_of_mem_visitOrder_arrange hplaces hv
    obtain ⟨hulen, rfl⟩ := List.getElem?_eq_some_iff.mp hi
    obtain ⟨hvlen, rfl⟩ := List.getElem?_eq_some_iff.mp hj
    refine .inr ⟨hid, ?_⟩
    rw [toFormer, Prod.map_snd, Prod.map_snd, hui, hvj]
    refine List.pairwise_iff_getElem.mp hkeep u.2 v.2 hulen hvlen hlt ?_
    rw [hget, hget', Option.map_some, Option.map_some, hid]

include hplaces in
/-- The rows in the other order are served as those of the roster itself. -/
theorem map_visitOrder_arrange (hkeep : KeepsOrder roster places) :
    (visitOrder (arrange places roster)).map (toFormer places) = visitOrder roster := by
  have hperm : ((visitOrder (arrange places roster)).map (toFormer places)).Perm
      (visitOrder roster) :=
    ((visitOrder_perm _).map _).trans <|
      (Arrangement.zipIdx_arrange_perm hplaces).trans (visitOrder_perm roster).symm
  refine hperm.eq_of_pairwise ?_ ?_ (visitOrder_pairwise roster)
  · intro u v _ _ huv hvu
    exact absurd hvu huv.asymm
  · rw [List.pairwise_map]
    exact (visitOrder_pairwise _).imp_of_mem (servedBefore_toFormer hplaces hkeep)

end Visits

/-! ### The ids issued already -/

section Current
variable (a : Assigner) (roster : List Entry) (prior : Prior) {current current' : List String}
variable (h : ∀ id, id ∈ current' ↔ id ∈ current)

include h in
theorem firstFree_congr (g : Gender) : a.firstFree current' g = a.firstFree current g := by
  have hissued : ∀ n, n ∈ a.issued current' g ↔ n ∈ a.issued current g := fun n => by
    simp only [issued, List.mem_map, List.mem_filter, List.mem_filterMap, h]
  have hmax : (a.issued current' g).max? = (a.issued current g).max? := by
    ext n
    simp only [List.max?_eq_some_iff, hissued]
  rw [firstFree, firstFree, hmax]

include h in
/-- A run looks only at which ids were issued, not how often or in which order. -/
theorem assign_congr : a.assign roster prior current' = a.assign roster prior current := by
  have hstart : a.startTallies current' = a.startTallies current := by
    simp only [startTallies, start_eq_firstFree, firstFree_congr a h]
  rw [assign, assign, hstart]

end Current

/-! ### Runs on a roster in another order -/

section Runs
variable (a : Assigner) (roster : List Entry) (prior : Prior) (current : List String)

/-- What a run assigns before it is checked that no two students share an id. -/
def unchecked : Except Error Issue := do
  let (served, s) ← a.assignAll prior ⟨a.startTallies current, ∅⟩ (visitOrder roster)
  let assignments := (served.mergeSort fun x y => x.2 ≤ y.2).map (·.1)
  return ⟨assignments, a.summary assignments.length s.tallies⟩

theorem assign_eq : a.assign roster prior current = (do
    let issue ← a.unchecked roster prior current
    ensureUnique issue.assignments
    return issue) := by
  simp only [assign, unchecked, bind_assoc, pure_bind]

variable {a roster prior current}

/-- Each row carries its place along, whatever it is. -/
theorem assignAll_toFormer (places : List Nat) (s : Progress) (us : List (Entry × Nat)) :
    a.assignAll prior s (us.map (toFormer places)) =
      (a.assignAll prior s us).map fun r => (r.1.map (toFormer places), r.2) := by
  induction us generalizing s with
  | nil => rfl
  | cons u us ih =>
    obtain ⟨e, place⟩ := u
    have hu : toFormer places (e, place) = (e, formerPlace places place) := rfl
    rw [List.map_cons, hu, assignAll, assignAll]
    cases a.assignOne prior s e with
    | error err => rfl
    | ok r =>
      simp only [bind, Except.bind, ih]
      cases a.assignAll prior r.2 us <;> rfl

theorem map_snd_visitOrder_perm (roster : List Entry) :
    ((visitOrder roster).map (·.2)).Perm (List.range roster.length) := by
  have hperm := (visitOrder_perm roster).map (·.2)
  rwa [List.zipIdx_map_snd, ← List.range_eq_range'] at hperm

theorem map_snd_assignAll {s s' : Progress} {us : List (Entry × Nat)}
    {served : List (Assignment × Nat)} (h : a.assignAll prior s us = .ok (served, s')) :
    served.map (·.2) = us.map (·.2) := by
  induction us generalizing s served with
  | nil =>
    cases h
    rfl
  | cons u us ih =>
    obtain ⟨e, place⟩ := u
    simp only [assignAll, bind_eq_ok_iff, pure_eq_ok_iff] at h
    obtain ⟨⟨x, s₁⟩, -, ⟨xs, s₂⟩, hrest, heq⟩ := h
    cases heq
    rw [List.map_cons, List.map_cons, ih hrest]

/-- Before the check, a run on a roster in another order assigns the same, in that order. -/
theorem unchecked_arrange {places : List Nat}
    (hplaces : places.Perm (List.range roster.length)) (hkeep : KeepsOrder roster places) :
    a.unchecked (arrange places roster) prior current =
      (a.unchecked roster prior current).map fun issue =>
        { issue with assignments := arrange places issue.assignments } := by
  rw [unchecked, unchecked, ← map_visitOrder_arrange hplaces hkeep, assignAll_toFormer]
  cases h : a.assignAll prior ⟨a.startTallies current, ∅⟩ (visitOrder (arrange places roster)) with
  | error e => rfl
  | ok r =>
    have hvisited : (r.1.map (·.2)).Perm (List.range roster.length) := by
      rw [map_snd_assignAll h, ← (Arrangement.arrange_perm hplaces).length_eq]
      exact map_snd_visitOrder_perm _
    have hsort := Arrangement.arrange_mergeSort hplaces hvisited
    simp only [bind, Except.bind, Except.map, pure, Except.pure, ← hsort, List.length_map,
      List.length_mergeSort]

theorem length_unchecked {issue : Issue} (h : a.unchecked roster prior current = .ok issue) :
    issue.assignments.length = roster.length := by
  simp only [unchecked, bind_eq_ok_iff, pure_eq_ok_iff] at h
  obtain ⟨⟨served, s⟩, hall, rfl⟩ := h
  have hplaces := congrArg List.length (map_snd_assignAll hall)
  rw [List.length_map, (map_snd_visitOrder_perm roster).length_eq, List.length_range] at hplaces
  rw [List.length_map, List.length_mergeSort, hplaces]

variable (a roster prior current) in
/-- Before the check, only a sequence can stop a run. -/
theorem unchecked_cases :
    (∃ issue, a.unchecked roster prior current = .ok issue) ∨
      ∃ g, a.unchecked roster prior current = .error (.sequenceOverflow g) := by
  cases h : (visitOrder roster).find? fun v => !decide (a.Fits roster prior current v) with
  | none =>
    have hfit : ∀ u ∈ visitOrder roster, a.Fits roster prior current u := by
      simpa [List.find?_eq_none] using h
    obtain ⟨s, hall, -⟩ := assignAll_of_fits rfl reached_start hfit
    exact .inl ⟨_, by rw [unchecked, hall]; rfl⟩
  | some u =>
    have hall := assignAll_of_not_fits rfl reached_start h
    exact .inr ⟨u.1.gender, by rw [unchecked, hall]; rfl⟩

variable (a prior current)

/-- How a run can end, and how it then ends on a roster in another order. -/
theorem assign_arrange_cases {places : List Nat}
    (hplaces : places.Perm (List.range roster.length)) (hkeep : KeepsOrder roster places) :
    (∃ issue, a.assign roster prior current = .ok issue ∧
      a.assign (arrange places roster) prior current =
        .ok { issue with assignments := arrange places issue.assignments }) ∨
    (∃ g, a.assign roster prior current = .error (.sequenceOverflow g) ∧
      a.assign (arrange places roster) prior current = .error (.sequenceOverflow g)) ∨
    (∃ cs cs', a.assign roster prior current = .error (.sharedIds cs) ∧
      a.assign (arrange places roster) prior current = .error (.sharedIds cs')) := by
  rw [assign_eq, assign_eq, unchecked_arrange hplaces hkeep]
  rcases unchecked_cases a roster prior current with ⟨issue, h⟩ | ⟨g, h⟩
  · have hperm : (arrange places issue.assignments).Perm issue.assignments :=
      Arrangement.arrange_perm ((length_unchecked h).symm ▸ hplaces)
    rw [h]
    rcases ensureUnique_cases issue.assignments with hunique | ⟨cs, hshared⟩
    · have hunique' := (ensureUnique_of_perm hperm).mpr hunique
      simp only [Except.map, bind, Except.bind, hunique, hunique']
      exact .inl ⟨issue, rfl, rfl⟩
    · rcases ensureUnique_cases (arrange places issue.assignments) with hunique' | ⟨cs', hshared'⟩
      · rw [ensureUnique_of_perm hperm, hshared] at hunique'
        cases hunique'
      · simp only [Except.map, bind, Except.bind, hshared, hshared']
        exact .inr (.inr ⟨cs, cs', rfl, rfl⟩)
  · rw [h]
    exact .inr (.inl ⟨g, rfl, rfl⟩)

/-- A run on a roster in another order, in which the rows of each student keep theirs, succeeds
exactly if the run on the roster does, and then issues the same to every row, with the same summary.
If one of them runs out of sequences for a gender, so does the other, and if one gives an id to two
students, so does the other. In which order the ids issued already are listed, and how often, does
not matter at all. -/
theorem assign_arrange {places : List Nat}
    (hplaces : places.Perm (List.range roster.length)) (hkeep : KeepsOrder roster places) :
    ((∃ issue, a.assign (arrange places roster) prior current = .ok issue) ↔
      ∃ issue, a.assign roster prior current = .ok issue) ∧
    (∀ issue, a.assign roster prior current = .ok issue →
      a.assign (arrange places roster) prior current =
        .ok { issue with assignments := arrange places issue.assignments }) ∧
    (∀ g, a.assign (arrange places roster) prior current = .error (.sequenceOverflow g) ↔
      a.assign roster prior current = .error (.sequenceOverflow g)) ∧
    ((∃ cs, a.assign (arrange places roster) prior current = .error (.sharedIds cs)) ↔
      ∃ cs, a.assign roster prior current = .error (.sharedIds cs)) ∧
    ∀ current', (∀ id, id ∈ current' ↔ id ∈ current) →
      a.assign roster prior current' = a.assign roster prior current := by
  have hcases := assign_arrange_cases a prior current hplaces hkeep
  refine ⟨?_, ?_, ?_, ?_, fun _ => assign_congr a roster prior⟩
  -- in each case both results are known, so every statement is about two of them
  all_goals
    rcases hcases with ⟨issue, h, h'⟩ | ⟨g, h, h'⟩ | ⟨cs, cs', h, h'⟩ <;> simp [h, h']

end Runs

/-- A run in which the rows are turned around as far as the student who is listed twice allows, and
the one id issued already is listed twice. -/
theorem assign_arrange_relisted :
    [3, 0, 1, 2].Perm (List.range relisted.length) ∧
    KeepsOrder relisted [3, 0, 1, 2] ∧
    ∃ issue, of1404.assign relisted heldIds ["543730041"] = .ok issue ∧
      of1404.assign (arrange [3, 0, 1, 2] relisted) heldIds ["543730041"] =
        .ok { issue with assignments := arrange [3, 0, 1, 2] issue.assignments } ∧
      of1404.assign relisted heldIds ["543730041", "543730041"] = .ok issue := by
  have hplaces : [3, 0, 1, 2].Perm (List.range relisted.length) := by decide
  have hkeep : KeepsOrder relisted [3, 0, 1, 2] := by decide
  obtain ⟨-, hrows, -, -, hcurrent⟩ := assign_arrange of1404 heldIds ["543730041"]
    hplaces hkeep
  have htwice := hcurrent ["543730041", "543730041"] (by simp)
  exact ⟨hplaces, hkeep, _, assign_of1404_relisted,
    hrows _ assign_of1404_relisted, htwice.trans assign_of1404_relisted⟩

end Assigner

end Mentorship.Registration
