import Mentorship.Proofs.NaturalOrder
import Mentorship.Proofs.StableSort
import Mentorship.Registration.Assignment

/-! The order in which a roster is served: by the numbers that national ids denote, and in roster
order where a student is listed again. -/

namespace Mentorship.Registration

open Text

/-! ### Numbers of ids -/

namespace NationalId

/-- The number that an id denotes. -/
def number (x : NationalId) : Nat :=
  natOfDigits x.text.toList

theorem toList_ne_nil (x : NationalId) : x.text.toList ≠ [] := by
  rw [← List.length_pos_iff, x.length_text]
  decide

theorem length_text_eq (x y : NationalId) : x.text.toList.length = y.text.toList.length :=
  x.length_text.trans y.length_text.symm

/-- The natural order of ids is that of their numbers. -/
theorem compare_sortKey (x y : NationalId) :
    compare x.sortKey y.sortKey = compare x.number y.number :=
  NaturalKey.compare_ofText_of_digits x.toList_ne_nil x.isDigit_text y.isDigit_text
    (length_text_eq x y)

/-- Ids that denote one number are one id. -/
theorem eq_of_number_eq {x y : NationalId} (h : x.number = y.number) : x = y :=
  NationalId.ext <| String.toList_inj.mp <|
    eq_of_natOfDigits_eq x.isDigit_text y.isDigit_text (length_text_eq x y) h

end NationalId

/-! ### The order of visits -/

/-- Whether a row is served before another: the smaller number first, and of the rows of one student
the earlier one. -/
def ServedBefore (u v : Entry × Nat) : Prop :=
  u.1.nationalId.number < v.1.nationalId.number ∨
    u.1.nationalId = v.1.nationalId ∧ u.2 < v.2

theorem ServedBefore.asymm {u v : Entry × Nat} (h : ServedBefore u v) : ¬ ServedBefore v u := by
  rintro (hlt | ⟨heq, hlt⟩) <;> rcases h with h | ⟨h, hidx⟩
  · omega
  · rw [h] at hlt
    omega
  · rw [heq] at h
    omega
  · omega

namespace Assigner

theorem visitOrder_perm (roster : List Entry) : (visitOrder roster).Perm roster.zipIdx :=
  List.mergeSort_perm _ _

@[simp] theorem mem_visitOrder {roster : List Entry} {u : Entry × Nat} :
    u ∈ visitOrder roster ↔ roster[u.2]? = some u.1 := by
  rw [(visitOrder_perm roster).mem_iff, List.mem_zipIdx_iff_getElem?]

theorem visitOrder_pairwise (roster : List Entry) :
    (visitOrder roster).Pairwise ServedBefore := by
  have hsorting := StableSort.isSorting_mergeSort
    (compareOn fun u : Entry × Nat => u.1.nationalId.sortKey) roster.zipIdx
  have hstable := hsorting.pairwise_of_pairwise (StableSort.pairwise_zipIdx roster)
  refine hstable.imp fun {u v} h => ?_
  unfold compareOn at h
  rw [NationalId.compare_sortKey, NationalId.compare_sortKey, Nat.isLE_compare,
    Nat.isLE_compare] at h
  obtain ⟨hle, htie⟩ := h
  rcases Nat.lt_or_eq_of_le hle with hlt | heq
  · exact .inl hlt
  · exact .inr ⟨NationalId.eq_of_number_eq heq, htie heq.ge⟩

end Assigner

end Mentorship.Registration
