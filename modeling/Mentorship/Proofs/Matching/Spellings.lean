import Mentorship.Proofs.Matching.CellReading
import Mentorship.Proofs.NumberRuns
import Mentorship.Proofs.Rounding

/-! Spellings of integers in cells. Digits of any scripts behind any sign are read as they are. With
a point and zeros behind them they go through a floating-point number, so that integers of more than
53 significant bits are read as others. -/

namespace Mentorship.Matching

open Number Text

/-! ### Spellings -/

/-- A spelling of `n`: digits of any scripts behind any sign, with blanks around. -/
structure Spelling (n : Int) where
  before : String
  sign : Sign
  digits : String
  after : String
  isBlank_before : ∀ c ∈ before.toList, isBlank c = true
  isNumeral : IsNumeral digits
  isBlank_after : ∀ c ∈ after.toList, isBlank c = true
  signed_eq : signed sign.negative (numberOf digits) = n

/-- One zero or more, of any scripts. -/
structure IsZeros (s : String) : Prop extends IsNumeral s where
  numberOf_eq : numberOf s = 0

theorem natAbs_le_of_bounds {n : Int} (hlow : int64Min ≤ n) (hhigh : n ≤ int64Max) :
    n.natAbs ≤ 2 ^ 63 := by
  unfold int64Min at hlow
  unfold int64Max at hhigh
  omega

namespace Spelling

variable {n : Int} {zeros : String}

def chars (x : Spelling n) : List Char :=
  x.sign.chars ++ x.digits.toList

def text (x : Spelling n) : String :=
  x.before ++ String.ofList x.chars ++ x.after

/-- The spelling with a point and digits behind it. -/
def pointed (x : Spelling n) (zeros : String) : String :=
  x.before ++ String.ofList (x.chars ++ '.' :: zeros.toList) ++ x.after

variable (x : Spelling n)

/-- Blanks around it are taken off, and digits are folded in it. -/
theorem trim_foldDigits_append {cs : List Char} (hcs : ∀ c ∈ cs, isBlank c = false) :
    trim (foldDigits (x.before ++ String.ofList cs ++ x.after)) =
      String.ofList (cs.map foldDigit) := by
  rw [trim_foldDigits, trim, String.toList_append, String.toList_append, String.toList_ofList,
    trimChars_append x.isBlank_before hcs x.isBlank_after, foldDigits, String.toList_ofList]

theorem not_isBlank_of_mem_chars {c : Char} (h : c ∈ x.chars) : isBlank c = false := by
  rw [chars, List.mem_append] at h
  rcases h with h | h
  · exact Sign.not_isBlank_of_mem_chars h
  · exact isBlank_of_isAnyDigit (x.isNumeral.isAnyDigit c h)

theorem map_foldDigit_chars :
    x.chars.map foldDigit = x.sign.chars ++ (foldDigits x.digits).toList := by
  have hsign : x.sign.chars.map foldDigit = x.sign.chars := by cases x.sign <;> rfl
  rw [chars, List.map_append, hsign, foldDigits, String.toList_ofList]

theorem trim_foldDigits_text :
    trim (foldDigits x.text) = String.ofList (x.sign.chars ++ (foldDigits x.digits).toList) := by
  rw [text, x.trim_foldDigits_append fun _ => x.not_isBlank_of_mem_chars, map_foldDigit_chars]

theorem trim_foldDigits_pointed (hz : IsNumeral zeros) :
    trim (foldDigits (x.pointed zeros)) = String.ofList
      (x.sign.chars ++ ((foldDigits x.digits).toList ++ '.' :: (foldDigits zeros).toList)) := by
  have hblank : ∀ c ∈ x.chars ++ '.' :: zeros.toList, isBlank c = false := by
    rw [List.forall_mem_append, List.forall_mem_cons]
    exact ⟨fun _ => x.not_isBlank_of_mem_chars, rfl,
      fun c hc => isBlank_of_isAnyDigit (hz.isAnyDigit c hc)⟩
  have hpoint : foldDigit '.' = '.' := rfl
  rw [pointed, x.trim_foldDigits_append hblank, List.map_append, map_foldDigit_chars,
    List.map_cons, hpoint, List.append_assoc, foldDigits, foldDigits, String.toList_ofList,
    String.toList_ofList]

/-- Neither form is a mark for a missing value. -/
theorem isBlankMark_of_trim {s : String} {cs : List Char}
    (h : trim s = String.ofList (x.sign.chars ++ ((foldDigits x.digits).toList ++ cs))) :
    isBlankMark s = false := by
  obtain ⟨d, ds, hds⟩ := List.exists_cons_of_ne_nil x.isNumeral.foldDigits_ne_nil
  have hd : d ∈ (foldDigits x.digits).toList := hds ▸ List.mem_cons_self
  have hdigit := x.isNumeral.isDigit_foldDigits d hd
  have hmem : d ∈ (trim s).toList := by
    rw [h, String.toList_ofList]
    exact List.mem_append_right _ (List.mem_append_left _ hd)
  rw [mem_trim_iff (isBlank_of_isDigit hdigit)] at hmem
  exact isBlankMark_of_isAnyDigit hmem (isAnyDigit_of_isDigit hdigit)

theorem isBlankMark_text : isBlankMark (foldDigits x.text) = false := by
  have htrim : trim (foldDigits x.text) =
      String.ofList (x.sign.chars ++ ((foldDigits x.digits).toList ++ [])) := by
    rw [x.trim_foldDigits_text, List.append_nil]
  exact x.isBlankMark_of_trim htrim

theorem isBlankMark_pointed (hz : IsNumeral zeros) :
    isBlankMark (foldDigits (x.pointed zeros)) = false :=
  x.isBlankMark_of_trim (x.trim_foldDigits_pointed hz)

theorem numberOf_digits : numberOf x.digits = n.natAbs := by
  have h := congrArg Int.natAbs x.signed_eq
  rwa [Binary64.natAbs_signed] at h

/-! ### Digits alone -/

theorem int64?_text (hlow : int64Min ≤ n) (hhigh : n ≤ int64Max) :
    int64? (trim (foldDigits x.text)) = some n := by
  rw [int64?_eq_some_iff, trim_foldDigits_text,
    integer?_of_digits x.sign x.isNumeral.foldDigits_ne_nil x.isNumeral.isDigit_foldDigits]
  exact ⟨congrArg some x.signed_eq, hlow, hhigh⟩

theorem ofCell_text (hlow : int64Min ≤ n) (hhigh : n ≤ int64Max) :
    Trait.ofCell x.text = .int n :=
  Trait.ofCell_eq_int_iff.mpr ⟨x.isBlankMark_text,
    Trait.integer?_eq_some_iff.mpr (.inl (x.int64?_text hlow hhigh))⟩

/-! ### Zeros behind a point -/

theorem int64?_pointed (hz : IsNumeral zeros) :
    int64? (trim (foldDigits (x.pointed zeros))) = none := by
  rw [x.trim_foldDigits_pointed hz, int64?, integerWithin?,
    integer?_of_point x.sign x.isNumeral.foldDigits_ne_nil x.isNumeral.isDigit_foldDigits,
    Option.filter_none]

/-- The zeros count for nothing. -/
theorem ofText?_pointed (hlow : int64Min ≤ n) (hhigh : n ≤ int64Max) (hz : IsZeros zeros) :
    Binary64.ofText? (trim (foldDigits (x.pointed zeros))) =
      some (Binary64.nearest x.sign.negative n.natAbs 1) := by
  have hfits : n.natAbs < 10 ^ 20 :=
    (natAbs_le_of_bounds hlow hhigh).trans_lt (by decide)
  have hvalue : natOfDigits ((foldDigits x.digits).toList ++ (foldDigits zeros).toList) =
      n.natAbs * 10 ^ (foldDigits zeros).toList.length := by
    have hdigits : natOfDigits (foldDigits x.digits).toList = n.natAbs := x.numberOf_digits
    have hzeros : natOfDigits (foldDigits zeros).toList = 0 := hz.numberOf_eq
    rw [natOfDigits_append, hdigits, hzeros, Nat.add_zero]
  rw [x.trim_foldDigits_pointed hz.toIsNumeral, Binary64.ofText?,
    decimal?_of_point x.sign x.isNumeral.foldDigits_ne_nil x.isNumeral.isDigit_foldDigits
      hz.isDigit_foldDigits,
    Option.map_some, hvalue,
    Binary64.ofDecimal_mul_pow hfits (by decide) (List.length_pos_iff.mpr hz.foldDigits_ne_nil)]

/-- Of a spelling with zeros behind a point, the nearest integer of 53 significant bits is read. -/
theorem integral?_pointed (hlow : int64Min ≤ n) (hhigh : n ≤ int64Max) :
    (Binary64.nearest x.sign.negative n.natAbs 1).integral? = some (Binary64.nearestInt n) := by
  have hlog : n.natAbs.log2 < 1022 := by
    rcases Nat.eq_zero_or_pos n.natAbs with hzero | hpos
    · rw [hzero]
      decide
    · have hword : n.natAbs < 2 ^ 64 := (natAbs_le_of_bounds hlow hhigh).trans_lt (by decide)
      exact ((Nat.log2_lt hpos.ne').mpr hword).trans (by decide)
  rw [Binary64.integral?_nearest hlog, Binary64.signed_nearestNat, ← x.numberOf_digits, x.signed_eq]

theorem ofCell_pointed_eq_int_iff (hlow : int64Min ≤ n) (hhigh : n ≤ int64Max)
    (hz : IsZeros zeros) {k : Int} :
    Trait.ofCell (x.pointed zeros) = .int k ↔
      Binary64.nearestInt n = k ∧ k.natAbs < Trait.integerBound := by
  rw [Trait.ofCell_eq_int_iff, Trait.integer?_eq_some_iff, x.int64?_pointed hz.toIsNumeral,
    x.ofText?_pointed hlow hhigh hz]
  simp [x.isBlankMark_pointed hz.toIsNumeral, x.integral?_pointed hlow hhigh]

theorem seats_pointed (hlow : int64Min ≤ n) (hhigh : n ≤ int64Max) (hz : IsZeros zeros) :
    Seats.ofCell (x.pointed zeros) = .ok (Seats.clamp (Binary64.nearestInt n)) := by
  apply Seats.ofCell_of_number? (x.isBlankMark_pointed hz.toIsNumeral)
  rw [Seats.number?, x.int64?_pointed hz.toIsNumeral, x.ofText?_pointed hlow hhigh hz,
    Option.none_or, Option.bind_some,
    Seats.ofBinary64?_of_integral? (x.integral?_pointed hlow hhigh)]

/-! ### Both forms -/

/-- The two ends of the range: the least integer is exact but not below the bound, and the greatest
one is rounded above it. -/
theorem clamp_nearestInt_eq_iff (hlow : int64Min ≤ n) (hhigh : n ≤ int64Max) :
    Seats.clamp (Binary64.nearestInt n) = n ↔ Binary64.IsExact n.natAbs ∨ n = int64Max := by
  have hle := Binary64.nearestNat_le_of_le (natAbs_le_of_bounds hlow hhigh)
  have hgreatest : Binary64.nearestInt int64Max = int64Max + 1 := rfl
  rw [← Binary64.nearestInt_eq_iff]
  rw [← Binary64.natAbs_nearestInt] at hle
  constructor
  · intro h
    unfold Seats.clamp int64Min int64Max at *
    omega
  · rintro (h | rfl)
    · rw [h, Seats.clamp_of_bounds hlow hhigh]
    · rw [hgreatest]
      rfl

theorem ofCell_pointed_ne_missing (hz : IsNumeral zeros) :
    Trait.ofCell (x.pointed zeros) ≠ .missing := by
  rw [Ne, Trait.ofCell_eq_missing_iff, x.isBlankMark_pointed hz]
  exact Bool.false_ne_true

theorem natAbs_lt_integerBound_iff (hlow : int64Min ≤ n) (hhigh : n ≤ int64Max) :
    n.natAbs < Trait.integerBound ↔ n ≠ int64Min := by
  unfold int64Min at *
  unfold int64Max at hhigh
  unfold Trait.integerBound
  omega

/-- A spelling by digits alone is read as it is, by the traits and by the seats. With zeros behind a
point, it is read so by the traits exactly if the integer has no more than 53 significant bits and
is not the least one, and by the seats exactly if it has so few or is the greatest one. So the two
forms of such integers agree where the integers are equal, and any other is taken for the nearest
one. -/
theorem ofCell_text_and_pointed (hlow : int64Min ≤ n) (hhigh : n ≤ int64Max)
    (hz : IsZeros zeros) :
    Trait.ofCell x.text = .int n ∧ Seats.ofCell x.text = .ok n ∧
    (Trait.ofCell (x.pointed zeros) = .int n ↔ Binary64.IsExact n.natAbs ∧ n ≠ int64Min) ∧
    (Seats.ofCell (x.pointed zeros) = .ok n ↔ Binary64.IsExact n.natAbs ∨ n = int64Max) ∧
    ∀ m (y : Spelling m), int64Min ≤ m → m ≤ int64Max →
      ((Trait.ofCell x.text).agrees (Trait.ofCell y.text) = true ↔ n = m) ∧
      ((Trait.ofCell (x.pointed zeros)).agrees (Trait.ofCell y.text) = true ↔
        Binary64.nearestInt n = m ∧ m ≠ int64Min) ∧
      ∀ zeros', IsZeros zeros' → Binary64.IsExact m.natAbs → m ≠ int64Min →
        ((Trait.ofCell (x.pointed zeros)).agrees (Trait.ofCell (y.pointed zeros')) = true ↔
          Binary64.nearestInt n = m) := by
  have hpointed {k : Int} (hk : int64Min ≤ k) (hk' : k ≤ int64Max) :
      Trait.ofCell (x.pointed zeros) = .int k ↔ Binary64.nearestInt n = k ∧ k ≠ int64Min := by
    rw [x.ofCell_pointed_eq_int_iff hlow hhigh hz, natAbs_lt_integerBound_iff hk hk']
  have hpresent := x.ofCell_pointed_ne_missing hz.toIsNumeral
  refine ⟨x.ofCell_text hlow hhigh, ?_, ?_, ?_, fun m y hm hm' => ⟨?_, ?_, ?_⟩⟩
  · exact Seats.ofCell_of_number? x.isBlankMark_text
      (by rw [Seats.number?, x.int64?_text hlow hhigh, Option.some_or])
  · rw [hpointed hlow hhigh, Binary64.nearestInt_eq_iff]
  · rw [x.seats_pointed hlow hhigh hz, Except.ok.injEq, clamp_nearestInt_eq_iff hlow hhigh]
  · rw [x.ofCell_text hlow hhigh, y.ofCell_text hm hm',
      Trait.agrees_iff Trait.noConfusion Trait.noConfusion, Trait.int.injEq]
  · rw [y.ofCell_text hm hm', Trait.agrees_iff hpresent Trait.noConfusion, hpointed hm hm']
  · intro zeros' hz' hexact hne
    have hread : Trait.ofCell (y.pointed zeros') = .int m := by
      rw [y.ofCell_pointed_eq_int_iff hm hm' hz', natAbs_lt_integerBound_iff hm hm',
        Binary64.nearestInt_eq_iff]
      exact ⟨hexact, hne⟩
    rw [hread, Trait.agrees_iff hpresent Trait.noConfusion, hpointed hm hm', and_iff_left hne]

/-- Minus twelve in Persian digits, with a zero in front and blanks around. -/
def minusTwelve : Spelling (-12) where
  before := " "
  sign := .minus
  digits := "۰۱۲"
  after := "\t\u00A0"
  isBlank_before := List.all_eq_true.mp rfl
  isNumeral := ⟨by decide, List.all_eq_true.mp rfl⟩
  isBlank_after := List.all_eq_true.mp rfl
  signed_eq := rfl

theorem isZeros_mixed : IsZeros "۰٠0" where
  ne_nil := by decide
  isAnyDigit := List.all_eq_true.mp rfl
  numberOf_eq := rfl

theorem ofCell_text_and_pointed_minusTwelve :
    int64Min ≤ -12 ∧ -12 ≤ int64Max ∧ IsZeros "۰٠0" ∧
    Trait.ofCell " -۰۱۲\t\u00A0" = .int (-12) ∧ Seats.ofCell " -۰۱۲\t\u00A0" = .ok (-12) ∧
    Trait.ofCell " -۰۱۲.۰٠0\t\u00A0" = .int (-12) ∧
    Seats.ofCell " -۰۱۲.۰٠0\t\u00A0" = .ok (-12) ∧
    (Trait.ofCell " -۰۱۲.۰٠0\t\u00A0").agrees (Trait.ofCell " -۰۱۲\t\u00A0") = true := by
  have hlow : int64Min ≤ -12 := by decide
  have hhigh : -12 ≤ int64Max := by decide
  have hexact : Binary64.IsExact (-12 : Int).natAbs := Binary64.isExact_of_le (by decide)
  obtain ⟨htrait, hseats, hpointed, hpointed', hagrees⟩ :=
    minusTwelve.ofCell_text_and_pointed hlow hhigh isZeros_mixed
  exact ⟨hlow, hhigh, isZeros_mixed, htrait, hseats, hpointed.mpr ⟨hexact, by decide⟩,
    hpointed'.mpr (.inl hexact), (hagrees (-12) minusTwelve hlow hhigh).2.1.mpr
      ⟨Binary64.nearestInt_eq_iff.mpr hexact, by decide⟩⟩

/-- The least natural number of 54 significant bits that ends in a one. -/
def wide : Spelling 9007199254740993 where
  before := ""
  sign := .absent
  digits := "9007199254740993"
  after := ""
  isBlank_before := List.all_eq_true.mp rfl
  isNumeral := ⟨by decide, List.all_eq_true.mp rfl⟩
  isBlank_after := List.all_eq_true.mp rfl
  signed_eq := by decide

/-- A zero behind a point makes it the integer before it: the two forms do not agree, and one of
them agrees with a different integer. -/
theorem ofCell_pointed_wide :
    Trait.ofCell wide.text = .int 9007199254740993 ∧
    Trait.ofCell (wide.pointed "0") = .int 9007199254740992 ∧
    Seats.ofCell wide.text = .ok 9007199254740993 ∧
    Seats.ofCell (wide.pointed "0") = .ok 9007199254740992 ∧
    (Trait.ofCell wide.text).agrees (Trait.ofCell (wide.pointed "0")) = false ∧
    (Trait.ofCell (wide.pointed "0")).agrees (Trait.ofCell "9007199254740992") = true :=
  ⟨rfl, rfl, rfl, rfl, rfl, rfl⟩

end Spelling

end Mentorship.Matching
