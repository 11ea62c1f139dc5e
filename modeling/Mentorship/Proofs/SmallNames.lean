import Mentorship.Proofs.Words
import Mentorship.Text.Label

/-! Names that are their own labels: words without capital letters, with single spaces between them.
Most columns have names of small ASCII letters, the others names in a script without case. -/

namespace Mentorship.Text

/-! ### Characters without a lower form -/

/-- The first 192 characters without the capital letters, and the Arabic block. -/
def isCaseless (c : Char) : Bool :=
  let n := c.toNat
  n < 65 || (90 < n && n < 192) || (0x600 ≤ n && n < 0x700)

theorem isCaseless_iff {c : Char} : isCaseless c = true ↔
    c.toNat < 65 ∨ (90 < c.toNat ∧ c.toNat < 192) ∨ (0x600 ≤ c.toNat ∧ c.toNat < 0x700) := by
  simp only [isCaseless, Bool.or_eq_true, Bool.and_eq_true, decide_eq_true_eq, or_assoc]

theorem ne_of_isCaseless {c d : Char} (h : isCaseless c = true) (hd : isCaseless d = false) :
    c ≠ d := by
  rintro rfl
  rw [h] at hd
  cases hd

/-- The runs of the table of lower forms lie around these characters. -/
theorem lowerRuns_ranges : ∀ r ∈ lowerRuns, (65 ≤ r.first ∧ r.last ≤ 90) ∨
    (192 ≤ r.first ∧ r.last < 0x600) ∨ 0x700 ≤ r.first := by
  decide +kernel

theorem lowerChar_of_isCaseless {c : Char} (h : isCaseless c = true) : lowerChar c = [c] := by
  have hdot : (c == 'İ') = false := beq_eq_false_iff_ne.mpr (ne_of_isCaseless h (by decide))
  have hrun : lowerRuns.find? (·.covers c.toNat) = none := by
    rw [List.find?_eq_none]
    intro r hr hcovers
    simp only [LowerRun.covers, Bool.and_eq_true, decide_eq_true_eq] at hcovers
    have hrange := lowerRuns_ranges r hr
    have hc := isCaseless_iff.mp h
    omega
  rw [lowerChar, hdot, if_neg Bool.false_ne_true, hrun]

theorem lowerAfter_of_isCaseless (before : List Char) {cs : List Char}
    (h : ∀ c ∈ cs, isCaseless c = true) : lowerAfter before cs = cs := by
  induction cs generalizing before with
  | nil => rfl
  | cons c cs ih =>
    rw [List.forall_mem_cons] at h
    have hsigma : (c == 'Σ') = false := beq_eq_false_iff_ne.mpr (ne_of_isCaseless h.1 (by decide))
    rw [lowerAfter, hsigma, if_neg Bool.false_ne_true, lowerChar_of_isCaseless h.1, ih _ h.2]
    rfl

/-! ### Plain names -/

/-- Words of such characters, single spaces between. -/
def isPlainName (s : String) : Bool :=
  s.toList.all isCaseless && collapse s == s

theorem isInvisible_of_isCaseless {c : Char} (h : isCaseless c = true) : isInvisible c = false := by
  simp only [isInvisible, Bool.or_eq_false_iff, beq_eq_false_iff_ne]
  exact ⟨⟨ne_of_isCaseless h (by decide), ne_of_isCaseless h (by decide)⟩,
    ne_of_isCaseless h (by decide)⟩

/-- A plain name is its own label. -/
theorem label_of_isPlainName {s : String} (hs : isPlainName s = true) : label s = s := by
  rw [isPlainName, Bool.and_eq_true, List.all_eq_true, beq_iff_eq] at hs
  obtain ⟨h, hcollapse⟩ := hs
  have hseen : (s.toList.map fun c => if isInvisible c then ' ' else c) = s.toList := by
    refine (List.map_congr_left fun c hc => ?_).trans (List.map_id' _)
    rw [isInvisible_of_isCaseless (h c hc), if_neg Bool.false_ne_true]
  rw [label, hseen, String.ofList_toList, hcollapse, lowercase, lowercaseChars,
    lowerAfter_of_isCaseless [] h, String.ofList_toList]

theorem map_label_of_isPlainName {names : List String}
    (h : ∀ name ∈ names, isPlainName name = true) : names.map label = names :=
  (List.map_congr_left fun name hname => label_of_isPlainName (h name hname)).trans
    (List.map_id' _)

/-! ### Names of small letters -/

/-- Small ASCII letters and the underscore, of which column names are made. -/
def isSmall (c : Char) : Bool :=
  ('a' ≤ c && c ≤ 'z') || c == '_'

theorem isSmall_iff {c : Char} :
    isSmall c = true ↔ (97 ≤ c.toNat ∧ c.toNat ≤ 122) ∨ c.toNat = 95 := by
  have hline : (c == '_') = (c.toNat == 95) := by
    rw [Bool.eq_iff_iff, beq_iff_eq, beq_iff_eq]
    exact Char.toNat_inj.symm
  simp only [isSmall, hline, Bool.or_eq_true, Bool.and_eq_true, decide_eq_true_eq, Char.le_def,
    UInt32.le_iff_toNat_le, beq_iff_eq]
  rfl

theorem isBlank_of_isSmall {c : Char} (h : isSmall c = true) : isBlank c = false := by
  have hn := isSmall_iff.mp h
  simp only [isBlank, Bool.or_eq_false_iff, Bool.and_eq_false_iff, beq_eq_false_iff_ne,
    decide_eq_false_iff_not]
  omega

theorem isCaseless_of_isSmall {c : Char} (h : isSmall c = true) : isCaseless c = true := by
  have hn := isSmall_iff.mp h
  rw [isCaseless_iff]
  omega

def isSmallName (s : String) : Bool :=
  !s.toList.isEmpty && s.toList.all isSmall

theorem trim_of_isSmallName {name : String} (h : isSmallName name = true) : trim name = name := by
  rw [isSmallName, Bool.and_eq_true, List.all_eq_true] at h
  exact trim_of_not_isBlank fun c hc => isBlank_of_isSmall (h.2 c hc)

theorem isPlainName_of_isSmallName {s : String} (hs : isSmallName s = true) :
    isPlainName s = true := by
  rw [isSmallName, Bool.and_eq_true, Bool.not_eq_true', List.isEmpty_eq_false_iff,
    List.all_eq_true] at hs
  obtain ⟨hne, h⟩ := hs
  have hword : wordsOf s.toList = [s.toList] :=
    wordsOf_of_isWord ⟨hne, fun c hc => isBlank_of_isSmall (h c hc)⟩
  have hcollapse : collapse s = s := by
    rw [collapse, hword, List.intercalate_singleton, String.ofList_toList]
  rw [isPlainName, Bool.and_eq_true, List.all_eq_true, beq_iff_eq]
  exact ⟨fun c hc => isCaseless_of_isSmall (h c hc), hcollapse⟩

/-- A name of small letters is its own label. -/
theorem label_of_isSmallName {s : String} (hs : isSmallName s = true) : label s = s :=
  label_of_isPlainName (isPlainName_of_isSmallName hs)

end Mentorship.Text
