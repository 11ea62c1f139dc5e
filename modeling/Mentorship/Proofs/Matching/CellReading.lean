import Mentorship.Matching.Seats
import Mentorship.Matching.Trait
import Mentorship.Proofs.Numerals
import Mentorship.Proofs.Words

/-! Cells as traits and as seat counts. What is read of a cell is written in one way only, and
reading that text gives the same trait again; and a cell that is an integer as a trait is the same
integer as a number of seats. -/

namespace Mentorship.Matching

open Number Text

variable {cell s : String} {n : Int}

/-! ### What a cell is read as -/

namespace Trait

theorem ofCell_eq_missing_iff :
    ofCell cell = .missing ↔ isBlankMark (foldDigits cell) = true := by
  simp only [ofCell]
  split_ifs with hmark
  · simp [hmark]
  · split <;> simp [hmark]

theorem ofCell_eq_int_iff :
    ofCell cell = .int n ↔ isBlankMark (foldDigits cell) = false ∧
      integer? (trim (foldDigits cell)) = some n := by
  simp only [ofCell]
  split_ifs with hmark
  · simp [hmark]
  · split <;> simp_all

theorem ofCell_eq_text_iff :
    ofCell cell = .text s ↔ isBlankMark (foldDigits cell) = false ∧
      integer? (trim (foldDigits cell)) = none ∧ collapse (foldDigits cell) = s := by
  simp only [ofCell]
  split_ifs with hmark
  · simp [hmark]
  · split <;> simp_all

/-- An integer of a cell is that of its digits, or that of its nearest floating-point value. -/
theorem integer?_eq_some_iff :
    integer? s = some n ↔ int64? s = some n ∨ int64? s = none ∧
      ∃ x, Binary64.ofText? s = some x ∧ x.integral? = some n ∧ n.natAbs < integerBound := by
  rw [integer?, Option.or_eq_some_iff]
  refine or_congr Iff.rfl (and_congr Iff.rfl ?_)
  simp only [Option.bind_eq_some_iff, Option.filter_eq_some_iff, decide_eq_true_eq]

theorem bounds_of_integer? (h : integer? s = some n) : int64Min ≤ n ∧ n ≤ int64Max := by
  rw [integer?_eq_some_iff] at h
  rcases h with h | ⟨-, x, -, -, hbound⟩
  · exact (int64?_eq_some_iff.mp h).2
  · unfold integerBound at hbound
    unfold int64Min int64Max
    omega

/-- No cell with a blank inside is an integer. -/
theorem not_isBlank_of_integer? (h : integer? s = some n) : ∀ c ∈ s.toList, isBlank c = false := by
  rw [integer?_eq_some_iff] at h
  rcases h with h | ⟨-, x, hx, -⟩
  · exact Number.not_isBlank_of_integer? (int64?_eq_some_iff.mp h).1
  · obtain ⟨d, hd, -⟩ := Option.map_eq_some_iff.mp hx
    exact not_isBlank_of_decimal? hd

end Trait

namespace Seats

/-- The seat count that a trimmed numeral denotes. -/
def number? (s : String) : Option Int :=
  (int64? s).or ((Binary64.ofText? s).bind ofBinary64?)

theorem ofCell_of_isBlankMark (h : isBlankMark (foldDigits cell) = true) :
    ofCell cell = .ok 0 := by
  simp only [ofCell, h, ↓reduceIte]

theorem ofCell_of_number? (hmark : isBlankMark (foldDigits cell) = false)
    (h : number? (trim (foldDigits cell)) = some n) : ofCell cell = .ok n := by
  rw [number?] at h
  simp only [ofCell, hmark, Bool.false_eq_true, ↓reduceIte, h]

theorem ofCell_of_number?_eq_none (hmark : isBlankMark (foldDigits cell) = false)
    (h : number? (trim (foldDigits cell)) = none) : ofCell cell = .error ⟨trim cell⟩ := by
  rw [number?] at h
  simp only [ofCell, hmark, Bool.false_eq_true, ↓reduceIte, h]

theorem ofCell_eq_error_iff {e : NotNumeric} :
    ofCell cell = .error e ↔ isBlankMark (foldDigits cell) = false ∧
      number? (trim (foldDigits cell)) = none ∧ ⟨trim cell⟩ = e := by
  cases hmark : isBlankMark (foldDigits cell) with
  | true => simp [ofCell_of_isBlankMark hmark]
  | false =>
    cases hnumber : number? (trim (foldDigits cell)) with
    | none => simp [ofCell_of_number?_eq_none hmark hnumber]
    | some n => simp [ofCell_of_number? hmark hnumber]

theorem clamp_of_bounds (hlow : int64Min ≤ n) (hhigh : n ≤ int64Max) : clamp n = n := by
  rw [clamp, min_eq_right hhigh, max_eq_right hlow]

/-- An integer is its own integer part. -/
theorem ofBinary64?_of_integral? {x : Binary64} (h : x.integral? = some n) :
    ofBinary64? x = some (clamp n) := by
  cases x with
  | notANumber => cases h
  | infinite negative => cases h
  | finite negative m e =>
    simp only [Binary64.integral?] at h
    split_ifs at h
    change (Binary64.truncated? (.finite negative m e)).map clamp = some (clamp n)
    rw [← Option.some.inj h]
    rfl

/-- A trait that is an integer is read from the same numeral as a seat count. -/
theorem number?_of_integer? (h : Trait.integer? s = some n) : number? s = some n := by
  obtain ⟨hlow, hhigh⟩ := Trait.bounds_of_integer? h
  rw [Trait.integer?_eq_some_iff] at h
  rw [number?, Option.or_eq_some_iff]
  refine h.imp_right fun ⟨hnone, x, hx, hintegral, _⟩ => ⟨hnone, ?_⟩
  rw [hx, Option.bind_some, ofBinary64?_of_integral? hintegral, clamp_of_bounds hlow hhigh]

end Seats

/-! ### The two readings together -/

/-- A cell that is an integer as a trait is that number of seats, a cell that is missing is no
seats, and only text is no number of seats at all. -/
theorem Seats.ofCell_of_trait (cell : String) :
    (∀ n, Trait.ofCell cell = .int n → Seats.ofCell cell = .ok n) ∧
    (Trait.ofCell cell = .missing → Seats.ofCell cell = .ok 0) ∧
    (∀ e, Seats.ofCell cell = .error e →
      e.cell = trim cell ∧ ∃ s, Trait.ofCell cell = .text s) := by
  refine ⟨fun n hn => ?_, fun hmissing => ?_, fun e he => ?_⟩
  · obtain ⟨hmark, hinteger⟩ := Trait.ofCell_eq_int_iff.mp hn
    exact Seats.ofCell_of_number? hmark (Seats.number?_of_integer? hinteger)
  · exact Seats.ofCell_of_isBlankMark (Trait.ofCell_eq_missing_iff.mp hmissing)
  · obtain ⟨hmark, hnumber, rfl⟩ := Seats.ofCell_eq_error_iff.mp he
    refine ⟨rfl, collapse (foldDigits cell), Trait.ofCell_eq_text_iff.mpr ⟨hmark, ?_, rfl⟩⟩
    -- an integer would have been a number of seats
    cases hinteger : Trait.integer? (trim (foldDigits cell)) with
    | none => rfl
    | some n => exact absurd (Seats.number?_of_integer? hinteger) (by simp [hnumber])

/-- Twelve with a point, in Persian digits; a dash; and a text that is no number. -/
theorem Seats.ofCell_of_trait_twelve :
    Trait.ofCell " ۱۲.0 " = .int 12 ∧ Seats.ofCell " ۱۲.0 " = .ok 12 ∧
    Trait.ofCell " – " = .missing ∧ Seats.ofCell " – " = .ok 0 ∧
    Seats.ofCell " plenty " = .error ⟨"plenty"⟩ ∧ ∃ s, Trait.ofCell " plenty " = .text s := by
  have htwelve : Trait.ofCell " ۱۲.0 " = .int 12 := rfl
  have hdash : Trait.ofCell " – " = .missing := rfl
  have hplenty : Seats.ofCell " plenty " = .error ⟨"plenty"⟩ := rfl
  exact ⟨htwelve, (ofCell_of_trait " ۱۲.0 ").1 12 htwelve, hdash,
    (ofCell_of_trait " – ").2.1 hdash, hplenty, ((ofCell_of_trait " plenty ").2.2 _ hplenty).2⟩

/-! ### Traits as they are written -/

namespace Trait

/-- An integer as written is read as that integer. -/
theorem ofCell_toString (hlow : int64Min ≤ n) (hhigh : n ≤ int64Max) :
    ofCell (toString n) = .int n := by
  have hread := integer?_toString n
  obtain ⟨σ, hs, -⟩ := toString_eq n
  have hfold : foldDigits (toString n) = toString n := by
    apply foldDigits_of_forall
    rw [hs, String.toList_ofList, List.forall_mem_append]
    refine ⟨fun c hc => ?_, fun c hc => foldDigit_of_isDigit (isDigit_of_mem_digitsOfNat hc)⟩
    cases σ <;> simp_all [Sign.chars, foldDigit]
  have htrim : trim (toString n) = toString n :=
    trim_of_not_isBlank (Number.not_isBlank_of_integer? hread)
  obtain ⟨d, ds, hdigits⟩ := List.exists_cons_of_ne_nil (digitsOfNat_ne_nil (n := n.natAbs))
  have hd : d ∈ digitsOfNat n.natAbs := hdigits ▸ List.mem_cons_self
  have hmark : isBlankMark (toString n) = false := by
    refine isBlankMark_of_isAnyDigit ?_ (isAnyDigit_of_isDigit (isDigit_of_mem_digitsOfNat hd))
    rw [hs, String.toList_ofList]
    exact List.mem_append_right _ hd
  rw [ofCell_eq_int_iff, hfold, htrim, integer?_eq_some_iff]
  exact ⟨hmark, .inl (int64?_eq_some_iff.mpr ⟨hread, hlow, hhigh⟩)⟩

theorem foldDigits_collapse (cell : String) :
    foldDigits (collapse (foldDigits cell)) = collapse (foldDigits cell) := by
  apply foldDigits_of_forall
  intro c hc
  rcases mem_of_mem_collapse hc with rfl | hc
  · rfl
  · rw [foldDigits, String.toList_ofList, List.mem_map] at hc
    obtain ⟨e, -, rfl⟩ := hc
    exact foldDigit_foldDigit e

/-- Text with its blanks collapsed is read as that text. -/
theorem ofCell_of_text (h : ofCell cell = .text s) : ofCell s = .text s := by
  obtain ⟨hmark, hinteger, rfl⟩ := ofCell_eq_text_iff.mp h
  rw [ofCell_eq_text_iff, foldDigits_collapse, collapse_collapse]
  refine ⟨?_, ?_, rfl⟩
  · by_contra hmark'
    rw [Bool.not_eq_false] at hmark'
    have htrim := trim_collapse_of_trim (not_isBlank_of_isBlankMark hmark')
    rw [isBlankMark, htrim] at hmark'
    exact absurd hmark' (Bool.eq_false_iff.mp hmark)
  · cases hinteger' : integer? (trim (collapse (foldDigits cell))) with
    | none => rfl
    | some n =>
      have htrim := trim_collapse_of_trim (not_isBlank_of_integer? hinteger')
      rw [htrim, hinteger] at hinteger'
      exact absurd hinteger' (Option.some_ne_none n).symm

/-- A trait is read back as it was written. -/
theorem ofCell_render (cell : String) : ofCell (ofCell cell).render = ofCell cell := by
  cases h : ofCell cell with
  | missing => rfl
  | int n =>
    obtain ⟨hlow, hhigh⟩ := bounds_of_integer? (ofCell_eq_int_iff.mp h).2
    exact ofCell_toString hlow hhigh
  | text s => exact ofCell_of_text h

theorem agrees_iff {t u : Trait} (ht : t ≠ .missing) (hu : u ≠ .missing) :
    t.agrees u = true ↔ t = u := by
  cases t <;> cases u <;> simp_all [agrees]

theorem agrees_missing (t : Trait) : t.agrees .missing = false := by
  cases t <;> rfl

/-- A trait of a cell is told by its text: the text is read as that trait again, and two present
traits agree exactly if they are written alike. -/
theorem ofCell_canonical (cell other : String) :
    ofCell (ofCell cell).render = ofCell cell ∧
    (ofCell cell ≠ .missing → ofCell other ≠ .missing →
      ((ofCell cell).agrees (ofCell other) = true ↔
        (ofCell cell).render = (ofCell other).render)) ∧
    render .missing = "" ∧ ∀ t, agrees .missing t = false ∧ agrees t .missing = false := by
  refine ⟨ofCell_render cell, fun hcell hother => ?_, rfl, fun t => ⟨rfl, agrees_missing t⟩⟩
  rw [agrees_iff hcell hother]
  constructor
  · intro h
    rw [h]
  · intro h
    rw [← ofCell_render cell, h, ofCell_render other]

/-- One text with blanks of two kinds. -/
theorem ofCell_canonical_campus :
    (ofCell " North \t Campus\u3000").render = "North Campus" ∧
    (ofCell "North\u2003Campus").render = "North Campus" ∧
    ofCell (ofCell " North \t Campus\u3000").render = ofCell " North \t Campus\u3000" ∧
    (ofCell " North \t Campus\u3000").agrees (ofCell "North\u2003Campus") = true := by
  have hrender : (ofCell " North \t Campus\u3000").render = "North Campus" := rfl
  have hrender' : (ofCell "North\u2003Campus").render = "North Campus" := rfl
  obtain ⟨hread, hagrees, -⟩ := ofCell_canonical " North \t Campus\u3000" "North\u2003Campus"
  exact ⟨hrender, hrender', hread,
    (hagrees (by decide) (by decide)).mpr (hrender.trans hrender'.symm)⟩

end Trait

end Mentorship.Matching
