import Mentorship.Number.Numeral
import Mentorship.Proofs.NumberRuns
import Mentorship.Text.Label

/-! Numerals. An integer is read from its digits with any sign in front, and from the digits that
it is written with; a decimal is read from digits around a point. No numeral and no mark for a
missing value has a blank inside. -/

namespace Mentorship

/-! ### Lower case and blank marks -/

namespace Text

theorem toLower_of_not_upper {c : Char} (h : ¬ (65 ≤ c.toNat ∧ c.toNat ≤ 90)) : c.toLower = c := by
  apply dif_neg
  rintro ⟨hlow, hhigh⟩
  have hlow : 65 ≤ c.toNat := UInt32.le_iff_toNat_le.mp hlow
  have hhigh : c.toNat ≤ 90 := UInt32.le_iff_toNat_le.mp hhigh
  exact h ⟨hlow, hhigh⟩

theorem toLower_of_isAnyDigit {c : Char} (h : isAnyDigit c = true) : c.toLower = c := by
  rw [isAnyDigit_iff] at h
  exact toLower_of_not_upper (by omega)

theorem toLower_of_isBlank {c : Char} (h : isBlank c = true) : c.toLower = c := by
  apply toLower_of_not_upper
  rintro ⟨hlow, hhigh⟩
  simp only [isBlank, Bool.or_eq_true, Bool.and_eq_true, beq_iff_eq, decide_eq_true_eq] at h
  omega

/-- Letters of either case have no blank among them if the small ones have none. -/
theorem not_isBlank_of_map_toLower {cs : List Char}
    (h : ∀ c ∈ cs.map Char.toLower, isBlank c = false) : ∀ c ∈ cs, isBlank c = false := by
  intro c hc
  by_contra hblank
  rw [Bool.not_eq_false] at hblank
  have hlower := h c.toLower (List.mem_map_of_mem hc)
  rw [toLower_of_isBlank hblank, hblank] at hlower
  exact Bool.noConfusion hlower

theorem mem_blankMarks :
    ∀ mark ∈ blankMarks, ∀ c ∈ mark.toList, isAnyDigit c = false ∧ isBlank c = false := by
  have hall :
      (blankMarks.all fun mark => mark.toList.all fun c => !isAnyDigit c && !isBlank c) = true :=
    rfl
  simpa only [List.all_eq_true, Bool.and_eq_true, Bool.not_eq_true'] using hall

/-- What has a digit in it is no mark for a missing value. -/
theorem isBlankMark_of_isAnyDigit {s : String} {c : Char} (hc : c ∈ s.toList)
    (h : isAnyDigit c = true) : isBlankMark s = false := by
  rw [isBlankMark, Bool.eq_false_iff, Ne, List.contains_iff_mem]
  intro hmark
  have hmem : c ∈ (lowerAscii (trim s)).toList := by
    rw [lowerAscii, String.toList_ofList, ← toLower_of_isAnyDigit h]
    exact List.mem_map_of_mem ((mem_trim_iff (isBlank_of_isAnyDigit h)).mpr hc)
  simpa [h] using (mem_blankMarks _ hmark c hmem).1

theorem not_isBlank_of_isBlankMark {s : String} (h : isBlankMark s = true) :
    ∀ c ∈ (trim s).toList, isBlank c = false := by
  rw [isBlankMark, List.contains_iff_mem] at h
  apply not_isBlank_of_map_toLower
  intro c hc
  rw [← String.toList_ofList (l := (trim s).toList.map Char.toLower)] at hc
  exact (mem_blankMarks _ h c hc).2

/-! ### Digits of a number -/

theorem digitsOfNat_ne_nil {n : Nat} : digitsOfNat n ≠ [] :=
  Nat.toDigits_ne_nil

theorem isDigit_of_mem_digitsOfNat {n : Nat} {c : Char} (h : c ∈ digitsOfNat n) :
    isDigit c = true :=
  Nat.isDigit_of_mem_toDigits (by decide) (by decide) h

@[simp] theorem natOfDigits_digitsOfNat (n : Nat) : natOfDigits (digitsOfNat n) = n :=
  Nat.ofDigitChars_toDigits (by decide) (by decide)

end Text

namespace Number

open Text

/-! ### Signs -/

/-- The signs that may stand in front of a number. -/
inductive Sign where
  | absent
  | plus
  | minus
  deriving DecidableEq

namespace Sign

def chars : Sign → List Char
  | absent => []
  | plus => ['+']
  | minus => ['-']

def negative (σ : Sign) : Bool :=
  σ == minus

theorem not_isBlank_of_mem_chars {σ : Sign} {c : Char} (h : c ∈ σ.chars) : isBlank c = false := by
  cases σ with
  | absent => simp [chars] at h
  | plus => exact List.mem_singleton.mp h ▸ rfl
  | minus => exact List.mem_singleton.mp h ▸ rfl

/-- Any sign is split off from what begins with a digit. -/
theorem splitSign_append (σ : Sign) {c : Char} (hc : isDigit c = true) (cs : List Char) :
    splitSign (σ.chars ++ c :: cs) = (σ.negative, c :: cs) := by
  cases σ with
  | absent =>
    have hminus : c ≠ '-' := by
      rintro rfl
      exact absurd hc (by decide)
    have hplus : c ≠ '+' := by
      rintro rfl
      exact absurd hc (by decide)
    simp [chars, negative, splitSign, hminus, hplus]
  | plus => rfl
  | minus => rfl

end Sign

/-- A sign brings no blank with it. -/
theorem not_isBlank_of_splitSign {cs : List Char} (h : ∀ c ∈ (splitSign cs).2, isBlank c = false) :
    ∀ c ∈ cs, isBlank c = false := by
  unfold splitSign at h
  split at h
  · exact List.forall_mem_cons.mpr ⟨rfl, h⟩
  · exact List.forall_mem_cons.mpr ⟨rfl, h⟩
  · exact h

/-! ### Integers -/

section Integers

variable {s : String} {n : Int} {ds zs : List Char}

theorem integer?_of_digits (σ : Sign) (hne : ds ≠ []) (h : ∀ c ∈ ds, isDigit c = true) :
    integer? (String.ofList (σ.chars ++ ds)) = some (signed σ.negative (natOfDigits ds)) := by
  have hall : ds.all isDigit = true := List.all_eq_true.mpr h
  have hempty : ds.isEmpty = false := List.isEmpty_eq_false_iff.mpr hne
  obtain ⟨d, es, rfl⟩ := List.exists_cons_of_ne_nil hne
  rw [integer?, String.toList_ofList, σ.splitSign_append (h d List.mem_cons_self)]
  simp only [hempty, hall, Bool.not_true, Bool.or_false, Bool.false_eq_true, ↓reduceIte]

/-- A point is no part of an integer. -/
theorem integer?_of_point (σ : Sign) (hne : ds ≠ []) (h : ∀ c ∈ ds, isDigit c = true) :
    integer? (String.ofList (σ.chars ++ (ds ++ '.' :: zs))) = none := by
  have hall : (ds ++ '.' :: zs).all isDigit = false := by
    rw [List.all_append, List.all_cons]
    simp [isDigit]
  obtain ⟨d, es, rfl⟩ := List.exists_cons_of_ne_nil hne
  rw [integer?, String.toList_ofList, List.cons_append,
    σ.splitSign_append (h d List.mem_cons_self), ← List.cons_append]
  simp only [hall, Bool.not_false, Bool.or_true, ↓reduceIte]

theorem int64?_eq_some_iff :
    int64? s = some n ↔ integer? s = some n ∧ int64Min ≤ n ∧ n ≤ int64Max := by
  rw [int64?, integerWithin?, Option.filter_eq_some_iff, Bool.and_eq_true, decide_eq_true_eq,
    decide_eq_true_eq]

theorem not_isBlank_of_integer? (h : integer? s = some n) :
    ∀ c ∈ s.toList, isBlank c = false := by
  have hdigits : ((splitSign s.toList).2 ≠ [] ∧ ∀ c ∈ (splitSign s.toList).2, isDigit c = true) ∧
      signed (splitSign s.toList).1 (natOfDigits (splitSign s.toList).2) = n := by
    simpa [integer?] using h
  exact not_isBlank_of_splitSign fun c hc => isBlank_of_isDigit (hdigits.1.2 c hc)

/-- An integer is written with digits behind its sign. -/
theorem toString_eq (n : Int) : ∃ σ : Sign,
    toString n = String.ofList (σ.chars ++ digitsOfNat n.natAbs) ∧
      signed σ.negative n.natAbs = n := by
  have hneg (m : Nat) : (Int.negSucc m).repr = "-" ++ (m + 1).repr := rfl
  cases n with
  | ofNat m => exact ⟨.absent, rfl, rfl⟩
  | negSucc m => exact ⟨.minus, String.toList_inj.mp (by simp [Sign.chars, digitsOfNat, hneg m]), rfl⟩

/-- An integer is read back as it was written. -/
theorem integer?_toString (n : Int) : integer? (toString n) = some n := by
  obtain ⟨σ, hs, hn⟩ := toString_eq n
  rw [hs, integer?_of_digits σ digitsOfNat_ne_nil fun _ => isDigit_of_mem_digitsOfNat,
    natOfDigits_digitsOfNat, hn]

end Integers

/-! ### Decimals -/

section Decimals

variable {s : String} {d : Decimal} {ds zs : List Char}

/-- A decimal is read from the digits around its point. -/
theorem decimal?_of_point (σ : Sign) (hne : ds ≠ []) (hds : ∀ c ∈ ds, isDigit c = true)
    (hzs : ∀ c ∈ zs, isDigit c = true) :
    decimal? (String.ofList (σ.chars ++ (ds ++ '.' :: zs))) =
      some (.finite σ.negative (natOfDigits (ds ++ zs)) (-zs.length)) := by
  have hpoint : isDigit '.' = false := rfl
  have hwhole : (ds ++ '.' :: zs).takeWhile isDigit = ds := by
    simp [List.takeWhile_append_of_pos hds, hpoint]
  have hrest : (ds ++ '.' :: zs).dropWhile isDigit = '.' :: zs := by
    simp [List.dropWhile_append_of_pos hds, hpoint]
  have hpart : zs.takeWhile isDigit = zs := List.takeWhile_eq_self_iff.mpr hzs
  have htail : zs.dropWhile isDigit = [] := List.dropWhile_eq_nil_iff.mpr hzs
  have hempty : ds.isEmpty = false := List.isEmpty_eq_false_iff.mpr hne
  have hfraction : fraction? σ.negative (ds ++ '.' :: zs) =
      some (.finite σ.negative (natOfDigits (ds ++ zs)) (-zs.length)) := by
    simp [fraction?, hwhole, hrest, hpart, htail, hempty, exponentPart?]
  obtain ⟨c, es, rfl⟩ := List.exists_cons_of_ne_nil hne
  rw [decimal?, String.toList_ofList, List.cons_append,
    σ.splitSign_append (hds c List.mem_cons_self), ← List.cons_append]
  simp only [hfraction]

theorem not_isBlank_of_exponentPart? {cs : List Char} {e : Int} (h : exponentPart? cs = some e) :
    ∀ c ∈ cs, isBlank c = false := by
  cases cs with
  | nil => exact List.forall_mem_nil _
  | cons c cs =>
    have hparts : (c = 'e' ∨ c = 'E') ∧
        ((splitSign cs).2 ≠ [] ∧ ∀ c ∈ (splitSign cs).2, isDigit c = true) ∧
          signed (splitSign cs).1 (natOfDigits (splitSign cs).2) = e := by
      simpa [exponentPart?] using h
    obtain ⟨hletter, ⟨-, hdigits⟩, -⟩ := hparts
    have hrest := not_isBlank_of_splitSign fun c hc => isBlank_of_isDigit (hdigits c hc)
    refine List.forall_mem_cons.mpr ⟨?_, hrest⟩
    rcases hletter with rfl | rfl <;> rfl

theorem not_isBlank_of_takeWhile {cs : List Char}
    (h : ∀ c ∈ cs.dropWhile isDigit, isBlank c = false) : ∀ c ∈ cs, isBlank c = false := by
  rw [← List.takeWhile_append_dropWhile (p := isDigit) (l := cs), List.forall_mem_append]
  exact ⟨fun c hc => isBlank_of_isDigit (List.mem_takeWhile_imp hc), h⟩

theorem not_isBlank_of_fraction? {cs : List Char} {negative : Bool}
    (h : fraction? negative cs = some d) : ∀ c ∈ cs, isBlank c = false := by
  apply not_isBlank_of_takeWhile
  simp only [fraction?] at h
  split_ifs at h
  obtain ⟨e, he, -⟩ := Option.map_eq_some_iff.mp h
  split at he
  · rename_i ds hrest
    rw [hrest]
    exact List.forall_mem_cons.mpr ⟨rfl, not_isBlank_of_takeWhile (not_isBlank_of_exponentPart? he)⟩
  · exact not_isBlank_of_exponentPart? he

/-- The words for values that are no finite numbers. -/
theorem not_isBlank_of_word {cs : List Char} {word : String}
    (hword : word.toList.all (!isBlank ·) = true)
    (h : String.ofList (cs.map Char.toLower) = word) : ∀ c ∈ cs, isBlank c = false := by
  subst h
  simp only [String.toList_ofList, List.all_eq_true, Bool.not_eq_true'] at hword
  exact not_isBlank_of_map_toLower hword

theorem not_isBlank_of_decimal? (h : decimal? s = some d) :
    ∀ c ∈ s.toList, isBlank c = false := by
  apply not_isBlank_of_splitSign
  simp only [decimal?] at h
  split at h
  · rename_i hfraction
    exact not_isBlank_of_fraction? hfraction
  · split_ifs at h with hinfinite hnan
    · rw [Bool.or_eq_true, beq_iff_eq, beq_iff_eq] at hinfinite
      rcases hinfinite with hword | hword
      · exact not_isBlank_of_word rfl hword
      · exact not_isBlank_of_word rfl hword
    · exact not_isBlank_of_word rfl (beq_iff_eq.mp hnan)

end Decimals

end Number

end Mentorship
