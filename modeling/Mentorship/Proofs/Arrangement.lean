import Mathlib.Data.List.Nodup
import Mathlib.Data.List.Perm.Basic
import Mathlib.Data.Prod.Basic
import Mentorship.Proofs.StableSort

/-! Lists in another order, which is given by the places of their members. If each place is named
once, members come back to their places by sorting, in the old order as in the new one. -/

namespace Mentorship.Arrangement

variable {α β : Type}

/-- The members of a list at some places, in the order of the places. -/
def arrange (places : List Nat) (l : List α) : List α :=
  places.filterMap (l[·]?)

/-- The place at which a member stood before. -/
def formerPlace (places : List Nat) (k : Nat) : Nat :=
  places[k]?.getD k

/-- A member with the place where it stood before instead of the one where it stands. -/
def toFormer (places : List Nat) : α × Nat → α × Nat :=
  Prod.map id (formerPlace places)

variable {places : List Nat} {l : List α}

theorem arrange_range (l : List α) : arrange (List.range l.length) l = l := by
  induction l with
  | nil => rfl
  | cons x l ih =>
    rw [arrange, List.length_cons, List.range_succ_eq_map,
      List.filterMap_cons_some List.getElem?_cons_zero, List.filterMap_map]
    exact congrArg (x :: ·) ih

theorem arrange_perm (h : places.Perm (List.range l.length)) : (arrange places l).Perm l := by
  have hperm := h.filterMap (l[·]?)
  exact hperm.trans (.of_eq (arrange_range l))

theorem arrange_map (places : List Nat) (f : α → β) (l : List α) :
    arrange places (l.map f) = (arrange places l).map f := by
  simp only [arrange, List.getElem?_map, List.map_filterMap]

theorem getElem?_arrange (h : ∀ i ∈ places, i < l.length) (k : Nat) :
    (arrange places l)[k]? = places[k]?.bind (l[·]?) := by
  induction places generalizing k with
  | nil => rfl
  | cons i places ih =>
    rw [List.forall_mem_cons] at h
    rw [arrange, List.filterMap_cons_some (List.getElem?_eq_getElem h.1)]
    cases k with
    | zero => simp [h.1]
    | succ k => exact ih h.2 k

/-- The members of a list in another order, with the places at which they stood. -/
theorem zipIdx_arrange (h : ∀ i ∈ places, i < l.length) :
    (arrange places l).zipIdx.map (toFormer places) = arrange places l.zipIdx := by
  have h' : ∀ i ∈ places, i < l.zipIdx.length := by rwa [List.length_zipIdx]
  apply List.ext_getElem?
  intro k
  rw [List.getElem?_map, List.getElem?_zipIdx, getElem?_arrange h, getElem?_arrange h']
  cases hk : places[k]? with
  | none => rfl
  | some i =>
    simp only [Option.bind_some, List.getElem?_zipIdx, Option.map_map]
    simp [Function.comp_def, toFormer, formerPlace, hk]

theorem zipIdx_arrange_perm (h : places.Perm (List.range l.length)) :
    ((arrange places l).zipIdx.map (toFormer places)).Perm l.zipIdx := by
  rw [zipIdx_arrange fun i hi => List.mem_range.mp (h.subset hi)]
  apply arrange_perm
  rwa [List.length_zipIdx]

theorem map_formerPlace_range (places : List Nat) :
    (List.range places.length).map (formerPlace places) = places := by
  apply List.ext_getElem?
  intro k
  rw [List.getElem?_map]
  by_cases hk : k < places.length
  · simp [formerPlace, hk]
  · simp [hk]

theorem formerPlace_injective {n : Nat} (h : places.Perm (List.range n)) :
    Function.Injective (formerPlace places) := by
  have hlength : places.length = n := by rw [h.length_eq, List.length_range]
  have hout {k : Nat} (hk : ¬k < places.length) : formerPlace places k = k := by
    rw [formerPlace, List.getElem?_eq_none (Nat.le_of_not_lt hk), Option.getD_none]
  have hin {k : Nat} (hk : k < places.length) :
      formerPlace places k = places[k] ∧ places[k] < places.length := by
    rw [formerPlace, List.getElem?_eq_getElem hk, Option.getD_some]
    have hmem := h.subset (List.getElem_mem hk)
    exact ⟨rfl, by simpa [hlength] using hmem⟩
  intro j k heq
  by_cases hj : j < places.length <;> by_cases hk : k < places.length
  · rw [(hin hj).1, (hin hk).1] at heq
    exact (List.Nodup.getElem_inj_iff (h.nodup_iff.mpr List.nodup_range)).mp heq
  · have := (hin hj).2
    rw [(hin hj).1, hout hk] at heq
    omega
  · have := (hin hk).2
    rw [(hin hk).1, hout hj] at heq
    omega
  · rw [hout hj, hout hk] at heq
    exact heq

theorem toFormer_injective {n : Nat} (h : places.Perm (List.range n)) :
    Function.Injective (toFormer places : α × Nat → α × Nat) :=
  Function.Injective.prodMap Function.injective_id (formerPlace_injective h)

/-- What is sorted by the present places is, in the other order, what is sorted by the former
ones. -/
theorem arrange_mergeSort {n : Nat} (h : places.Perm (List.range n)) {visited : List (α × Nat)}
    (hvisited : (visited.map (·.2)).Perm (List.range n)) :
    (visited.mergeSort fun x y => x.2 ≤ y.2).map (·.1) =
      arrange places (((visited.map (toFormer places)).mergeSort fun x y => x.2 ≤ y.2).map
        (·.1)) := by
  have hlength : places.length = n := by rw [h.length_eq, List.length_range]
  have hformer : ((visited.map (toFormer places)).map (·.2)).Perm (List.range n) := by
    have hmap := hvisited.map (formerPlace places)
    rw [← hlength, map_formerPlace_range, List.map_map] at hmap
    rw [List.map_map]
    exact hmap.trans h
  have hback := StableSort.perm_zipIdx_mergeSort hformer
  have hn : ((visited.map (toFormer places)).mergeSort fun x y =>
      decide (x.2 ≤ y.2)).length = n := by
    rw [List.length_mergeSort, List.length_map, ← List.length_map (·.2), hvisited.length_eq,
      List.length_range]
  have hnew : visited.Perm (arrange places _).zipIdx :=
    (List.map_perm_map_iff (toFormer_injective h)).mp <|
      hback.trans (zipIdx_arrange_perm (by rwa [List.length_map, hn])).symm
  have hsort := StableSort.map_fst_mergeSort_of_perm hnew (·.1)
  rw [List.zipIdx_map_fst] at hsort
  simpa using hsort

end Mentorship.Arrangement
