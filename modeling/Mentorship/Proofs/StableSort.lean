import Mathlib.Data.List.Basic
import Mathlib.Order.Compare

/-! Stability of merge sort. The members of a list that tie with each other keep their order, so
that sorting by one order refines any other by which the list was ordered before. By a lawful
comparison there is one stable sorting of a list, whatever algorithm finds it. Members that carry
their places along find back to them. -/

namespace Mentorship.StableSort

open Std (TransCmp OrientedCmp ReflCmp)

variable {α β : Type} (le : α → α → Bool)

/-- Members that all tie with each other are the same list before and after. -/
theorem filter_mergeSort (trans : ∀ a b c, le a b → le b c → le a c)
    (total : ∀ a b, le a b || le b a) (tied : α → Bool)
    (ht : ∀ a b, tied a → tied b → le a b) (l : List α) :
    (l.mergeSort le).filter tied = l.filter tied := by
  have hsorted : (l.filter tied).Pairwise fun a b => le a b := by
    apply List.pairwise_of_forall_mem_list
    intro a ha b hb
    exact ht a b (List.mem_filter.mp ha).2 (List.mem_filter.mp hb).2
  have hsub := (List.sublist_mergeSort trans total hsorted List.filter_sublist).filter tied
  simp only [List.filter_filter, Bool.and_self] at hsub
  exact (hsub.eq_of_length ((List.mergeSort_perm l le).filter tied).length_eq.symm).symm

/-! ### Sorting by a comparison -/

section Comparison
variable (cmp : α → α → Ordering)

/-- A list and a stable sorting of it: the same members, none strictly before an earlier one, and
those that tie with one of them in the order of the list. -/
structure IsSorting (l sorted : List α) : Prop where
  perm : sorted.Perm l
  pairwise : sorted.Pairwise fun a b => cmp b a ≠ .lt
  filter_tied : ∀ a ∈ l, (sorted.filter fun b => cmp a b = .eq) = l.filter fun b => cmp a b = .eq

theorem isLE_total [OrientedCmp cmp] (a b : α) :
    ((cmp a b).isLE || (cmp b a).isLE) = true := by
  have hswap : cmp b a = (cmp a b).swap := OrientedCmp.eq_swap
  rw [hswap]
  cases cmp a b <;> rfl

variable [TransCmp cmp]

theorem isSorting_mergeSort (l : List α) :
    IsSorting cmp l (l.mergeSort fun a b => (cmp a b).isLE) := by
  have htrans (a b c : α) : (cmp a b).isLE → (cmp b c).isLE → (cmp a c).isLE :=
    TransCmp.isLE_trans
  refine ⟨List.mergeSort_perm l _, ?_, fun a _ => ?_⟩
  · refine (List.pairwise_mergeSort htrans (isLE_total cmp) l).imp ?_
    exact OrientedCmp.not_lt_of_isLE
  · apply filter_mergeSort _ htrans (isLE_total cmp)
    intro b c hb hc
    simp only [decide_eq_true_eq] at hb hc
    exact Ordering.isLE_of_eq_eq (TransCmp.eq_trans (OrientedCmp.eq_symm hb) hc)

variable {cmp}

theorem IsSorting.pairwise_isLE {l sorted : List α} (h : IsSorting cmp l sorted) :
    sorted.Pairwise fun a b => (cmp a b).isLE := by
  refine h.pairwise.imp fun hab => ?_
  exact OrientedCmp.isGE_iff_isLE.mp (Ordering.isGE_iff_ne_lt.mpr hab)

/-- A list in some order is, once sorted, in that order among those that tie. -/
theorem IsSorting.pairwise_of_pairwise {R : α → α → Prop} {l sorted : List α}
    (h : IsSorting cmp l sorted) (hl : l.Pairwise R) :
    sorted.Pairwise fun a b => (cmp a b).isLE ∧ ((cmp b a).isLE → R a b) := by
  rw [List.pairwise_iff_forall_sublist]
  intro a b hab
  have hle := List.pairwise_iff_forall_sublist.mp h.pairwise_isLE hab
  refine ⟨hle, fun hba => ?_⟩
  have ha : a ∈ l := h.perm.mem_iff.mp (hab.subset List.mem_cons_self)
  have hself : cmp a a = .eq := ReflCmp.compare_self
  have htie : cmp a b = .eq := OrientedCmp.isLE_antisymm hle hba
  -- those that tie with `a`, of which `b` is one, are in the order of the list
  have hsub := hab.filter fun c => cmp a c = .eq
  rw [h.filter_tied a ha, List.filter_cons_of_pos (by simp [hself]),
    List.filter_cons_of_pos (by simp [htie]), List.filter_nil] at hsub
  exact List.pairwise_iff_forall_sublist.mp hl (hsub.trans List.filter_sublist)

/-- Of two lists in order with the same members, the first ones tie: neither is strictly before the
other. -/
theorem tied_of_perm_cons {x y : α} {l l' : List α} (hperm : (x :: l).Perm (y :: l'))
    (hl : ∀ b ∈ l, cmp b x ≠ .lt) (hl' : ∀ b ∈ l', cmp b y ≠ .lt) : cmp x y = .eq := by
  have hself (a : α) : cmp a a = .eq := ReflCmp.compare_self
  rcases List.mem_cons.mp (hperm.mem_iff.mp List.mem_cons_self) with rfl | hx
  · exact hself x
  rcases List.mem_cons.mp (hperm.mem_iff.mpr List.mem_cons_self) with rfl | hy
  · exact hself y
  cases h : cmp x y with
  | lt => exact absurd h (hl' x hx)
  | eq => rfl
  | gt => exact absurd (OrientedCmp.gt_iff_lt.mp h) (hl y hy)

/-- Two lists in order are equal if they have the same members and, of those that tie with any one,
the same list. -/
theorem eq_of_filter_tied {l l' : List α} (hperm : l.Perm l')
    (hl : l.Pairwise fun a b => cmp b a ≠ .lt) (hl' : l'.Pairwise fun a b => cmp b a ≠ .lt)
    (htied : ∀ a ∈ l, (l.filter fun b => cmp a b = .eq) = l'.filter fun b => cmp a b = .eq) :
    l = l' := by
  induction l generalizing l' with
  | nil => exact hperm.nil_eq
  | cons x l ih =>
    cases l' with
    | nil => exact hperm.eq_nil
    | cons y l' =>
      rw [List.pairwise_cons] at hl hl'
      have hself : cmp x x = .eq := ReflCmp.compare_self
      have hxy : cmp x y = .eq := tied_of_perm_cons hperm hl.1 hl'.1
      -- both come first among those that tie with `x`
      have hheads := htied x List.mem_cons_self
      rw [List.filter_cons_of_pos (by simp [hself]), List.filter_cons_of_pos (by simp [hxy])]
        at hheads
      obtain rfl : x = y := (List.cons.inj hheads).1
      congr 1
      refine ih hperm.cons_inv hl.2 hl'.2 fun a hmem => ?_
      have ha := htied a (List.mem_cons_of_mem _ hmem)
      rw [List.filter_cons, List.filter_cons] at ha
      split at ha
      · exact (List.cons.inj ha).2
      · exact ha

/-- A list has one stable sorting. -/
theorem IsSorting.eq {l sorted sorted' : List α} (h : IsSorting cmp l sorted)
    (h' : IsSorting cmp l sorted') : sorted = sorted' := by
  refine eq_of_filter_tied (h.perm.trans h'.perm.symm) h.pairwise h'.pairwise fun a ha => ?_
  have hmem := h.perm.mem_iff.mp ha
  rw [h.filter_tied a hmem, h'.filter_tied a hmem]

end Comparison

/-! ### Places -/

theorem pairwise_zipIdx (l : List α) : l.zipIdx.Pairwise fun u v => u.2 < v.2 := by
  have h := List.pairwise_lt_range' (s := 0) (n := l.length)
  rw [← List.zipIdx_map_snd 0 l, List.pairwise_map] at h
  exact h

theorem pairwise_mergeSort_place (visited : List (α × Nat)) :
    (visited.mergeSort fun x y => x.2 ≤ y.2).Pairwise fun x y => x.2 ≤ y.2 := by
  refine (List.pairwise_mergeSort ?_ ?_ _).imp of_decide_eq_true
  · intro x y z hxy hyz
    simp only [decide_eq_true_eq] at hxy hyz ⊢
    omega
  · intro x y
    simp only [Bool.or_eq_true, decide_eq_true_eq]
    omega

/-- Whatever order a list was visited in, sorting by the places leads back to its own. -/
theorem map_fst_mergeSort_of_perm {l : List α} {visited : List (α × Nat)}
    (h : visited.Perm l.zipIdx) (f : α × Nat → β) :
    ((visited.map fun u => (f u, u.2)).mergeSort fun x y => x.2 ≤ y.2).map (·.1) =
      l.zipIdx.map f := by
  have hperm := (List.mergeSort_perm _ fun x y : β × Nat => decide (x.2 ≤ y.2)).trans
    (h.map fun u => (f u, u.2))
  have hplaces : (l.zipIdx.map fun u => (f u, u.2)).Pairwise fun x y => x.2 ≤ y.2 := by
    rw [List.pairwise_map]
    exact (pairwise_zipIdx l).imp Nat.le_of_lt
  rw [List.Perm.eq_of_pairwise ?_ (pairwise_mergeSort_place _) hplaces hperm, List.map_map]
  · rfl
  · -- one place holds one member
    intro x y hx hy hxy hyx
    obtain ⟨u, hu, rfl⟩ := List.mem_map.mp (hperm.subset hx)
    obtain ⟨v, hv, rfl⟩ := List.mem_map.mp hy
    have hplace : u.2 = v.2 := Nat.le_antisymm hxy hyx
    rw [List.mem_zipIdx_iff_getElem?] at hu hv
    rw [hplace, hv, Option.some.injEq] at hu
    rw [Prod.ext hu.symm hplace]

/-- What holds each place once is, sorted by the places, a list with its places. -/
theorem perm_zipIdx_mergeSort {visited : List (α × Nat)} {n : Nat}
    (h : (visited.map (·.2)).Perm (List.range n)) :
    visited.Perm ((visited.mergeSort fun x y => x.2 ≤ y.2).map (·.1)).zipIdx := by
  have hperm := List.mergeSort_perm visited fun x y => decide (x.2 ≤ y.2)
  have hsorted := List.pairwise_map.mpr (pairwise_mergeSort_place visited)
  have hplaces := List.Perm.eq_of_pairwise (fun _ _ _ _ => Nat.le_antisymm) hsorted
    List.pairwise_le_range ((hperm.map _).trans h)
  have hlength := congrArg List.length hplaces
  rw [List.length_map, List.length_range] at hlength
  have hzip := List.zip_of_prod rfl hplaces
  rw [List.range_eq_range'] at hzip
  rw [List.zipIdx_eq_zip_range', List.length_map, hlength, ← hzip]
  exact hperm.symm

end Mentorship.StableSort
