import Mentorship.Proofs.NaturalOrder

/-! Numbers inside identifiers. Trimming and folding leave a run of digits where it stands, so the
key of an identifier is that of what comes before the run, the number, and that of what comes after
it. Hence identifiers that begin alike and go on with different numbers are ordered as the numbers
are, whatever the script of the digits, the zeros in front of them and the rest of the texts. -/

namespace Mentorship

open Std Text

/-! ### Digits of any script -/

namespace Text

/-- Whether a character is a digit once it is folded. -/
def isAnyDigit (c : Char) : Bool :=
  isDigit (foldDigit c)

/-- The number that digits of any scripts denote. -/
def numberOf (s : String) : Nat :=
  natOfDigits (foldDigits s).toList

/-- One digit or more, of any scripts. -/
structure IsNumeral (s : String) : Prop where
  ne_nil : s.toList ≠ []
  isAnyDigit : ∀ c ∈ s.toList, isAnyDigit c = true

/-- Whether no digit stands at the end of a text. -/
def EndsBeforeNumber (s : String) : Prop :=
  ∀ c ∈ s.toList.getLast?, isAnyDigit c = false

/-- Whether no digit stands at the beginning of a text. -/
def StartsAfterNumber (s : String) : Prop :=
  ∀ c ∈ s.toList.head?, isAnyDigit c = false

theorem isAnyDigit_of_isDigit {c : Char} (h : isDigit c = true) : isAnyDigit c = true := by
  rwa [isAnyDigit, foldDigit_of_isDigit h]

/-- The digits of any script are those of three ranges. -/
theorem isAnyDigit_iff {c : Char} : isAnyDigit c = true ↔
    48 ≤ c.toNat ∧ c.toNat ≤ 57 ∨ 0x06F0 ≤ c.toNat ∧ c.toNat ≤ 0x06F9 ∨
      0x0660 ≤ c.toNat ∧ c.toNat ≤ 0x0669 := by
  unfold isAnyDigit foldDigit
  dsimp only
  split_ifs with hpersian harabic
  · simp only [Bool.and_eq_true, decide_eq_true_eq] at hpersian
    exact iff_of_true (isDigit_ofNat _ (by omega)) (.inr (.inl hpersian))
  · simp only [Bool.and_eq_true, decide_eq_true_eq] at harabic
    exact iff_of_true (isDigit_ofNat _ (by omega)) (.inr (.inr harabic))
  · simp only [Bool.and_eq_true, decide_eq_true_eq] at hpersian harabic
    rw [isDigit_iff]
    omega

theorem isBlank_of_isAnyDigit {c : Char} (h : isAnyDigit c = true) : isBlank c = false := by
  rw [isAnyDigit_iff] at h
  simp only [isBlank, Bool.or_eq_false_iff, Bool.and_eq_false_iff, beq_eq_false_iff_ne,
    decide_eq_false_iff_not]
  omega

@[simp] theorem isBlank_foldDigit (c : Char) : isBlank (foldDigit c) = isBlank c := by
  cases h : isAnyDigit c with
  | true => rw [isBlank_of_isDigit h, isBlank_of_isAnyDigit h]
  | false =>
    rw [(foldDigit_eq_or_isDigit c).resolve_right (Bool.eq_false_iff.mp h)]

/-- Digits are folded before or after trimming. -/
theorem trim_foldDigits (s : String) : trim (foldDigits s) = foldDigits (trim s) := by
  have hblank : isBlank ∘ foldDigit = isBlank := funext isBlank_foldDigit
  simp only [trim, foldDigits, trimChars, trimStartChars, trimEndChars, String.toList_ofList,
    List.dropWhile_map, ← List.map_reverse, hblank]

/-- Folded, digits of any script are digits. -/
theorem IsNumeral.isDigit_foldDigits {d : String} (hd : IsNumeral d) :
    ∀ c ∈ (foldDigits d).toList, isDigit c = true := by
  intro c hc
  rw [foldDigits, String.toList_ofList, List.mem_map] at hc
  obtain ⟨e, he, rfl⟩ := hc
  exact hd.isAnyDigit e he

theorem IsNumeral.foldDigits_ne_nil {d : String} (hd : IsNumeral d) :
    (foldDigits d).toList ≠ [] := by
  simpa [foldDigits] using hd.ne_nil

end Text

/-! ### A number in its place -/

theorem NaturalToken.compare_append_left (ts us vs : List NaturalToken) :
    compare (ts ++ us) (ts ++ vs) = compare us vs := by
  induction ts with
  | nil => rfl
  | cons t ts ih =>
    rw [List.cons_append, List.cons_append, List.compare_cons_cons, ReflOrd.compare_self, ih,
      Ordering.eq_then]

namespace NaturalKey

/-- Where a digit meets another character, a run ends. -/
theorem runs_append {cs ds : List Char}
    (h : ∀ c ∈ cs.getLast?, ∀ d ∈ ds.head?, isDigit c ≠ isDigit d) :
    runs (cs ++ ds) = runs cs ++ runs ds := by
  apply List.splitBy_append
  intro c hc d hd
  simpa using h c hc d hd

/-- The tokens of characters that are not folded yet. -/
def tokensOf (cs : List Char) : List NaturalToken :=
  (runs (cs.map foldDigit)).map NaturalToken.ofRun

variable {p d e s t : String}

/-- A number is not trimmed away, and keeps apart what is trimmed at the two ends. -/
theorem toList_fold_append (hd : IsNumeral d) :
    (fold (p ++ d ++ s)).toList = (trimStartChars p.toList).map foldDigit ++
      (foldDigits d).toList ++ (trimEndChars s.toList).map foldDigit := by
  have hblank : ∀ c ∈ d.toList, isBlank c = false := fun c hc =>
    isBlank_of_isAnyDigit (hd.isAnyDigit c hc)
  have hstart : trimStartChars (p.toList ++ (d.toList ++ s.toList)) =
      trimStartChars p.toList ++ (d.toList ++ s.toList) := by
    apply trimStartChars_append
    intro c hc
    rw [List.head?_append_of_ne_nil _ hd.ne_nil] at hc
    exact hblank c (List.mem_of_mem_head? hc)
  have hend : trimEndChars (trimStartChars p.toList ++ d.toList ++ s.toList) =
      trimStartChars p.toList ++ d.toList ++ trimEndChars s.toList := by
    apply trimEndChars_append
    intro c hc
    rw [List.getLast?_append_of_ne_nil _ hd.ne_nil] at hc
    exact hblank c (List.mem_of_mem_getLast? hc)
  rw [fold, foldDigits, trim, trimChars, String.toList_append, String.toList_append,
    List.append_assoc, hstart, ← List.append_assoc, hend]
  simp [foldDigits]

/-- A number between other characters is a token of its own. -/
theorem tokens_ofText_append (hp : EndsBeforeNumber p) (hd : IsNumeral d)
    (hs : StartsAfterNumber s) :
    (ofText (p ++ d ++ s)).tokens = tokensOf (trimStartChars p.toList) ++
      .ofRun (foldDigits d).toList :: tokensOf (trimEndChars s.toList) := by
  have hfront : ∀ b ∈ ((trimStartChars p.toList).map foldDigit).getLast?,
      ∀ c ∈ (foldDigits d).toList.head?, isDigit b ≠ isDigit c := by
    intro b hb c hc
    rw [List.getLast?_map, Option.mem_map] at hb
    obtain ⟨b, hb, rfl⟩ := hb
    rw [hd.isDigit_foldDigits c (List.mem_of_mem_head? hc)]
    simpa [isAnyDigit] using hp b (mem_getLast?_of_trimStartChars hb)
  have hback : ∀ b ∈ ((trimStartChars p.toList).map foldDigit ++ (foldDigits d).toList).getLast?,
      ∀ c ∈ ((trimEndChars s.toList).map foldDigit).head?, isDigit b ≠ isDigit c := by
    intro b hb c hc
    rw [List.getLast?_append_of_ne_nil _ hd.foldDigits_ne_nil] at hb
    rw [List.head?_map, Option.mem_map] at hc
    obtain ⟨c, hc, rfl⟩ := hc
    rw [hd.isDigit_foldDigits b (List.mem_of_mem_getLast? hb)]
    simpa [isAnyDigit] using hs c (mem_head?_of_trimEndChars hc)
  unfold ofText
  rw [toList_fold_append hd, runs_append hback, runs_append hfront,
    runs_of_digits hd.foldDigits_ne_nil hd.isDigit_foldDigits]
  simp [tokensOf]

/-- Keys that begin alike compare by the numbers that follow, and then by what is behind them. -/
theorem compare_tokens_append (hp : EndsBeforeNumber p) (hd : IsNumeral d) (he : IsNumeral e)
    (hs : StartsAfterNumber s) (ht : StartsAfterNumber t) :
    compare (ofText (p ++ d ++ s)).tokens (ofText (p ++ e ++ t)).tokens =
      (compare (numberOf d) (numberOf e)).then
        (compare (tokensOf (trimEndChars s.toList)) (tokensOf (trimEndChars t.toList))) := by
  rw [tokens_ofText_append hp hd hs, tokens_ofText_append hp he ht,
    NaturalToken.compare_append_left, List.compare_cons_cons,
    NaturalToken.compare_ofRun_of_digits hd.foldDigits_ne_nil he.foldDigits_ne_nil
      hd.isDigit_foldDigits he.isDigit_foldDigits]
  rfl

/-- Identifiers that begin alike and go on with different numbers are ordered as the numbers are,
whatever comes after them. If the numbers are equal and what comes after them is the same, the
folded texts decide. -/
theorem compare_ofText_append (hp : EndsBeforeNumber p) (hd : IsNumeral d) (he : IsNumeral e)
    (hs : StartsAfterNumber s) (ht : StartsAfterNumber t) :
    (numberOf d ≠ numberOf e →
      compare (ofText (p ++ d ++ s)) (ofText (p ++ e ++ t)) =
        compare (numberOf d) (numberOf e)) ∧
    (numberOf d = numberOf e →
      compare (ofText (p ++ d ++ s)) (ofText (p ++ e ++ s)) =
        compare (fold (p ++ d ++ s)) (fold (p ++ e ++ s))) := by
  constructor
  · intro hne
    show order (ofText (p ++ d ++ s)) (ofText (p ++ e ++ t)) = _
    rw [order, compare_tokens_append hp hd he hs ht]
    -- numbers that differ leave nothing to the later parts
    rcases Nat.lt_or_gt_of_ne hne with h | h
    · rw [Nat.compare_eq_lt.mpr h]
      rfl
    · rw [Nat.compare_eq_gt.mpr h]
      rfl
  · intro heq
    show order (ofText (p ++ d ++ s)) (ofText (p ++ e ++ s)) = _
    rw [order, compare_tokens_append hp hd he hs hs, heq, ReflOrd.compare_self,
      ReflOrd.compare_self, Ordering.eq_then, Ordering.eq_then]
    rfl

/-- Seven comes before ten, in Persian digits and with zeros in front, though the one has more
characters and goes on otherwise. Spelled in two ways before the same rest, it is the spelling that
decides. -/
theorem compare_ofText_append_sevens :
    EndsBeforeNumber " EMP-" ∧ IsNumeral "۰۰۷" ∧ IsNumeral "10" ∧ IsNumeral "7" ∧
    StartsAfterNumber "z9 " ∧ StartsAfterNumber "" ∧ numberOf "۰۰۷" = 7 ∧
    compare (ofText (" EMP-" ++ "۰۰۷" ++ "z9 ")) (ofText (" EMP-" ++ "10" ++ "")) = .lt ∧
    compare (ofText (" EMP-" ++ "۰۰۷" ++ "z9 ")) (ofText (" EMP-" ++ "7" ++ "z9 ")) =
      compare "EMP-007z9" "EMP-7z9" := by
  have hp : EndsBeforeNumber " EMP-" := fun c hc => Option.some.inj hc ▸ rfl
  have hseven : IsNumeral "۰۰۷" := ⟨by decide, List.all_eq_true.mp rfl⟩
  have hten : IsNumeral "10" := ⟨by decide, List.all_eq_true.mp rfl⟩
  have hplain : IsNumeral "7" := ⟨by decide, List.all_eq_true.mp rfl⟩
  have hs : StartsAfterNumber "z9 " := fun c hc => Option.some.inj hc ▸ rfl
  have ht : StartsAfterNumber "" := fun c hc => nomatch hc
  have hvalue : numberOf "۰۰۷" = 7 := rfl
  have hvalue' : numberOf "7" = 7 := rfl
  have hgreater : numberOf "10" = 10 := rfl
  have hne : numberOf "۰۰۷" ≠ numberOf "10" := by
    rw [hvalue, hgreater]
    decide
  have hless := (compare_ofText_append hp hseven hten hs ht).1 hne
  have hsame := (compare_ofText_append hp hseven hplain hs hs).2 (hvalue.trans hvalue'.symm)
  rw [hvalue, hgreater] at hless
  exact ⟨hp, hseven, hten, hplain, hs, ht, hvalue, hless, hsame⟩

end NaturalKey

end Mentorship
