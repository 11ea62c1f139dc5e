import Mathlib.Data.String.Basic
import Mentorship.Proofs.Registration.IdText
import Mentorship.Proofs.Registration.VisitOrder

/-! National ids in canonical form. A text is read exactly if it has one to ten digits, of any
scripts and with anything between them, and its id is the number that they denote, written with ten
digits. So ids are equal exactly if their numbers are, and by key and by text they come in the order
of these. -/

namespace Mentorship

/-! ### Orders of texts -/

namespace Text

theorem compare_chars_eq_lt_iff {cs ds : List Char} : compare cs ds = .lt ↔ cs < ds := by
  induction cs generalizing ds with
  | nil => cases ds <;> simp
  | cons c cs ih =>
    cases ds with
    | nil => simp
    | cons d ds =>
      rw [List.compare_cons_cons, Ordering.then_eq_lt, ih, List.cons_lt_cons_iff, compare_lt_iff_lt,
        compare_eq_iff_eq]

/-- Texts compare as their characters do. -/
theorem compare_toList (s t : String) : compare s.toList t.toList = compare s t := by
  rcases lt_trichotomy s t with h | rfl | h
  · rw [compare_lt_iff_lt.mpr h, compare_chars_eq_lt_iff, ← String.lt_iff_toList_lt]
    exact h
  · rw [Std.ReflOrd.compare_self, Std.ReflOrd.compare_self]
  · rw [compare_gt_iff_gt.mpr h, Std.OrientedCmp.gt_iff_lt, compare_chars_eq_lt_iff,
      ← String.lt_iff_toList_lt]
    exact h

end Text

namespace Registration.NationalId

open Text

variable {s t : String} {x y : NationalId}

/-! ### The digits of a text -/

theorem length_digitsOf (s : String) : (digitsOf s).length = s.toList.countP isAnyDigit := by
  rw [digitsOf, foldDigits, String.toList_ofList, ← List.countP_eq_length_filter, List.countP_map]
  rfl

theorem countP_eq_zero_of_isBlankMark (h : isBlankMark s = true) :
    s.toList.countP isAnyDigit = 0 := by
  rw [List.countP_eq_zero]
  intro c hc hdigit
  rw [isBlankMark_of_isAnyDigit hc hdigit] at h
  exact Bool.noConfusion h

/-- The number that the digits of a text denote, whatever else is in it. -/
def numberIn (s : String) : Nat :=
  natOfDigits (digitsOf s)

theorem digitsOf_text (x : NationalId) : digitsOf x.text = x.text.toList := by
  rw [digitsOf, foldDigits_of_digits x.isDigit_text, List.filter_eq_self.mpr x.isDigit_text]

/-! ### The id of a text -/

theorem number_ofDigits {ds : List Char} (hlen : ds.length ≤ width)
    (h : ∀ c ∈ ds, isDigit c = true) : (ofDigits ds hlen h).number = natOfDigits ds := by
  rw [number, ofDigits, String.toList_ofList, natOfDigits_leftpad]

/-- A text with one to ten digits is read as the id that ends in them. -/
theorem ofText?_eq (s : String) : ofText? s =
    if h : 0 < (digitsOf s).length ∧ (digitsOf s).length ≤ width
    then some (ofDigits (digitsOf s) h.2 fun _ => isDigit_of_mem_digitsOf) else none := by
  simp only [ofText?, Bool.or_eq_true, List.isEmpty_iff, List.length_pos_iff]
  split_ifs with hrefused hcount hlen hcount hcount
  · rcases hrefused with hblank | hnil
    -- a mark for a missing value refuses nothing that the lack of digits would not
    · have hzero := countP_eq_zero_of_isBlankMark hblank
      rw [← length_digitsOf, List.length_eq_zero_iff] at hzero
      exact absurd hzero hcount.1
    · exact absurd hnil hcount.1
  · rfl
  · rfl
  · exact absurd ⟨fun hnil => hrefused (.inr hnil), hlen⟩ hcount
  · exact absurd hcount.2 hlen
  · rfl

/-- The id of a text denotes the number of its digits. -/
theorem ofText?_eq_some_iff : ofText? s = some x ↔
    (0 < s.toList.countP isAnyDigit ∧ s.toList.countP isAnyDigit ≤ width) ∧
      x.number = numberIn s := by
  rw [ofText?_eq, Option.dite_none_right_eq_some, ← length_digitsOf]
  constructor
  · rintro ⟨hcount, h⟩
    refine ⟨hcount, ?_⟩
    rw [← Option.some.inj h, number_ofDigits, numberIn]
  · rintro ⟨hcount, h⟩
    refine ⟨hcount, congrArg some (eq_of_number_eq ?_)⟩
    rw [number_ofDigits, h, numberIn]

theorem ofText?_eq_none_iff : ofText? s = none ↔
    s.toList.countP isAnyDigit = 0 ∨ width < s.toList.countP isAnyDigit := by
  rw [ofText?_eq, ← length_digitsOf, dite_eq_right_iff]
  simp only [reduceCtorEq, imp_false]
  omega

theorem number_of_ofText? (h : ofText? s = some x) : x.number = numberIn s :=
  (ofText?_eq_some_iff.mp h).2

/-! ### Ids as texts -/

/-- A national id is read as it was written. -/
theorem ofText?_text (x : NationalId) : ofText? x.text = some x := by
  rw [ofText?_eq_some_iff, ← length_digitsOf, numberIn, digitsOf_text, x.length_text]
  exact ⟨by decide, rfl⟩

/-- Ids come by their texts as they come by their numbers. -/
theorem compare_text (x y : NationalId) : compare x.text y.text = compare x.number y.number := by
  rw [← compare_toList, compare_eq_compare_natOfDigits x.isDigit_text y.isDigit_text
    (length_text_eq x y), number, number]

/-- Every id that is read is ten digits, which denote the number of the digits that were read, and is
read again as itself. Two ids are equal exactly if these numbers are, and their keys and their texts
are both in the order of the numbers. A text is refused exactly if it is a mark for a missing value,
or has no digits, or more than ten. -/
theorem ofText?_canonical :
    (∀ s x, ofText? s = some x →
      x.text.toList.length = 10 ∧ (∀ c ∈ x.text.toList, isDigit c = true) ∧
      x.number = numberIn s ∧ ofText? x.text = some x) ∧
    (∀ s t x y, ofText? s = some x → ofText? t = some y →
      (x = y ↔ numberIn s = numberIn t) ∧
      compare x.sortKey y.sortKey = compare x.number y.number ∧
      compare x.sortKey y.sortKey = compare x.text y.text) ∧
    ∀ s, ofText? s = none ↔
      isBlankMark s = true ∨ (∀ c ∈ s.toList, isAnyDigit c = false) ∨
        10 < s.toList.countP isAnyDigit := by
  refine ⟨fun s x h => ?_, fun s t x y h h' => ?_, fun s => ?_⟩
  · exact ⟨x.length_text, x.isDigit_text, number_of_ofText? h, x.ofText?_text⟩
  · have hkeys := compare_sortKey x y
    refine ⟨?_, hkeys, hkeys.trans (compare_text x y).symm⟩
    rw [← number_of_ofText? h, ← number_of_ofText? h']
    exact ⟨congrArg number, eq_of_number_eq⟩
  · have hnone : s.toList.countP isAnyDigit = 0 ↔ ∀ c ∈ s.toList, isAnyDigit c = false := by
      simp only [List.countP_eq_zero, Bool.not_eq_true]
    rw [ofText?_eq_none_iff, ← hnone]
    constructor
    · exact .inr
    · rintro (hblank | h)
      · exact .inl (countP_eq_zero_of_isBlankMark hblank)
      · exact h

/-- Seven hundred and twelve with zeros in front, in Persian digits and with a dash between them,
and nine behind a letter. -/
theorem ofText?_canonical_spellings : ∃ x y : NationalId,
    x.text = "0000000712" ∧ y.text = "0000000009" ∧
    ofText? " ۰۰۷-۱۲ " = some x ∧ ofText? "7-12" = some x ∧ ofText? "N٩" = some y ∧
    numberIn " ۰۰۷-۱۲ " = numberIn "7-12" ∧
    compare x.sortKey y.sortKey = .gt ∧ compare x.text y.text = .gt ∧
    ofText? "12345-678901" = none := by
  have hspelled : ofText? " ۰۰۷-۱۲ " = some ⟨"0000000712", rfl, rfl⟩ := rfl
  have hplain : ofText? "7-12" = some ⟨"0000000712", rfl, rfl⟩ := rfl
  have hnine : ofText? "N٩" = some ⟨"0000000009", rfl, rfl⟩ := rfl
  obtain ⟨-, horder, hrefused⟩ := ofText?_canonical
  obtain ⟨hnumbers, -⟩ := horder _ _ _ _ hspelled hplain
  obtain ⟨-, hkeys, htexts⟩ := horder _ _ _ _ hspelled hnine
  rw [number_of_ofText? hspelled, number_of_ofText? hnine] at hkeys
  have hgreater : compare (numberIn " ۰۰۷-۱۲ ") (numberIn "N٩") = .gt := rfl
  exact ⟨_, _, rfl, rfl, hspelled, hplain, hnine, hnumbers.mp rfl, hkeys.trans hgreater,
    htexts.symm.trans (hkeys.trans hgreater),
    (hrefused _).mpr (.inr (.inr (by decide +kernel)))⟩

end Registration.NationalId

end Mentorship
