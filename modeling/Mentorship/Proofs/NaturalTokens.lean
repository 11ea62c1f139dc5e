import Mathlib.Data.List.Forall2
import Mathlib.Data.List.SplitBy
import Mentorship.Proofs.NaturalOrder

/-! Tokens of identifiers. A folded text splits in one way only into runs that alternate between
digits and other characters, so that no character is lost before zeros are stripped and letters are
lowered. Up to the blanks around them and the script of their digits, identifiers are linearly
ordered by their keys. -/

namespace Mentorship

open Std Text

/-! ### Runs and tokens -/

namespace NaturalToken

def isNumber : NaturalToken → Bool
  | number _ => true
  | word _ => false

/-- Digits spell a number, which has no zeros in front, and other characters a word in lower case. -/
inductive Spells (run : List Char) : NaturalToken → Prop
  | number (ne_nil : run ≠ []) (all_digits : ∀ c ∈ run, isDigit c = true) :
      Spells run (number (run.dropWhile (· == '0')))
  | word (ne_nil : run ≠ []) (no_digits : ∀ c ∈ run, isDigit c = false) :
      Spells run (word (lowercaseChars run))

namespace Spells

variable {run run' : List Char} {t t' : NaturalToken}

theorem ne_nil (h : Spells run t) : run ≠ [] := by
  cases h with
  | number hne _ => exact hne
  | word hne _ => exact hne

theorem isDigit_eq (h : Spells run t) {c : Char} (hc : c ∈ run) : isDigit c = t.isNumber := by
  cases h with
  | number _ hall => exact hall c hc
  | word _ hno => exact hno c hc

/-- A run spells one token only. -/
theorem eq_ofRun (h : Spells run t) : t = ofRun run := by
  obtain ⟨c, cs, rfl⟩ := List.exists_cons_of_ne_nil h.ne_nil
  cases h with
  | number hne hall => exact (ofRun_of_digits hne hall).symm
  | word _ hno => simp [ofRun, hno c List.mem_cons_self]

/-- Runs meet between a digit and another character exactly if only one of them is a number. -/
theorem ends_ne_iff (h : Spells run t) (h' : Spells run' t') :
    (∃ hne hne', (isDigit (run.getLast hne) == isDigit (run'.head hne')) = false) ↔
      t.isNumber ≠ t'.isNumber := by
  rw [← h.isDigit_eq (List.getLast_mem h.ne_nil), ← h'.isDigit_eq (List.head_mem h'.ne_nil)]
  simp [h.ne_nil, h'.ne_nil]

end Spells

/-- A run spells the token that it is read as exactly if it is of one kind. -/
theorem spells_ofRun_iff {run : List Char} : Spells run (ofRun run) ↔
    run ≠ [] ∧ run.IsChain fun c d => (isDigit c == isDigit d) = true := by
  constructor
  · intro h
    refine ⟨h.ne_nil, List.isChain_iff_getElem.mpr fun i hi => ?_⟩
    rw [h.isDigit_eq (List.getElem_mem _), h.isDigit_eq (List.getElem_mem _), beq_self_eq_true]
  · rintro ⟨hne, hchain⟩
    obtain ⟨c, cs, rfl⟩ := List.exists_cons_of_ne_nil hne
    have : IsTrans Char fun c d => (isDigit c == isDigit d) = true :=
      ⟨fun a b c hab hbc => beq_iff_eq.mpr ((beq_iff_eq.mp hab).trans (beq_iff_eq.mp hbc))⟩
    -- being of one kind is passed on along the run, from its first character
    have hkind : ∀ d ∈ c :: cs, isDigit d = isDigit c :=
      List.forall_mem_cons.mpr ⟨rfl, fun d hd => (beq_iff_eq.mp (hchain.rel_cons hd)).symm⟩
    cases hc : isDigit c with
    | true =>
      rw [hc] at hkind
      rw [ofRun_of_digits hne hkind]
      exact .number hne hkind
    | false =>
      rw [hc] at hkind
      rw [ofRun, if_neg (by simp [hc])]
      exact .word hne hkind

end NaturalToken

namespace NaturalKey

open NaturalToken (Spells ofRun)

/-! ### The tokens of a text -/

/-- How a text is cut into tokens: the runs that spell them make up the text, and numbers and words
take turns. -/
structure Tokenizes (cs : List Char) (rs : List (List Char)) (ts : List NaturalToken) : Prop where
  flatten_eq : rs.flatten = cs
  spells : List.Forall₂ Spells rs ts
  alternate : ts.IsChain fun t u => t.isNumber ≠ u.isNumber

variable {cs : List Char} {rs : List (List Char)} {ts : List NaturalToken}

theorem eq_map_ofRun (h : List.Forall₂ Spells rs ts) : ts = rs.map ofRun := by
  induction h with
  | nil => rfl
  | cons hspells _ ih => rw [List.map_cons, ← hspells.eq_ofRun, ← ih]

/-- Runs that spell their tokens alternate exactly if these do. -/
theorem isChain_ends_iff (h : ∀ r ∈ rs, Spells r (ofRun r)) :
    rs.IsChain (fun r r' => ∃ hne hne',
      (isDigit (r.getLast hne) == isDigit (r'.head hne')) = false) ↔
      (rs.map ofRun).IsChain fun t u => t.isNumber ≠ u.isNumber := by
  rw [List.isChain_map]
  exact List.IsChain.iff_of_mem_imp fun r r' hr hr' => (h r hr).ends_ne_iff (h r' hr')

theorem tokenizes_map_ofRun_iff : Tokenizes cs rs (rs.map ofRun) ↔ runs cs = rs := by
  rw [runs, List.splitBy_eq_iff]
  constructor
  · rintro ⟨hflatten, hspells, halternate⟩
    rw [List.forall₂_map_right_iff, List.forall₂_same] at hspells
    exact ⟨hflatten.symm, fun hnil => (hspells [] hnil).ne_nil rfl,
      fun r hr => (NaturalToken.spells_ofRun_iff.mp (hspells r hr)).2,
      (isChain_ends_iff hspells).mpr halternate⟩
  · rintro ⟨hflatten, hnil, hkind, hends⟩
    have hspells : ∀ r ∈ rs, Spells r (ofRun r) := fun r hr =>
      NaturalToken.spells_ofRun_iff.mpr ⟨fun h => hnil (h ▸ hr), hkind r hr⟩
    refine ⟨hflatten.symm, ?_, (isChain_ends_iff hspells).mp hends⟩
    rwa [List.forall₂_map_right_iff, List.forall₂_same]

/-- A text is cut into tokens in one way only. -/
theorem tokenizes_iff : Tokenizes cs rs ts ↔ rs = runs cs ∧ ts = (runs cs).map ofRun := by
  constructor
  · intro h
    have hts := eq_map_ofRun h.spells
    subst hts
    rw [tokenizes_map_ofRun_iff.mp h]
    exact ⟨rfl, rfl⟩
  · rintro ⟨rfl, rfl⟩
    exact tokenizes_map_ofRun_iff.mpr rfl

/-- The tokens of a key are those that its folded text is cut into. -/
theorem tokenizes_fold_iff (x : String) :
    Tokenizes (fold x).toList rs ts ↔ rs = runs (fold x).toList ∧ ts = (ofText x).tokens := by
  rw [tokenizes_iff, ofText]

/-! ### The order of texts -/

theorem compare_ofText_eq_eq_iff {x y : String} :
    compare (ofText x) (ofText y) = .eq ↔ fold x = fold y := by
  rw [Std.compare_eq_iff_eq, ofText_eq_ofText_iff]

theorem isLE_total_ofText (x y : String) :
    (compare (ofText x) (ofText y)).isLE ∨ (compare (ofText y) (ofText x)).isLE := by
  rw [OrientedOrd.eq_swap (a := ofText y)]
  cases compare (ofText x) (ofText y) <;> simp

/-- Keys order identifiers linearly, where identifiers that are the same once trimmed and folded
count as one. The tokens of a key take turns between numbers and words, and the runs that spell them
make up the folded text, of which there is no other such cut. -/
theorem ofText_ordered_and_tokenized :
    (∀ x y z : String,
      compare (ofText y) (ofText x) = (compare (ofText x) (ofText y)).swap ∧
      ((compare (ofText x) (ofText y)).isLE → (compare (ofText y) (ofText x)).isLE →
        foldDigits (trim x) = foldDigits (trim y)) ∧
      ((compare (ofText x) (ofText y)).isLE → (compare (ofText y) (ofText z)).isLE →
        (compare (ofText x) (ofText z)).isLE) ∧
      ((compare (ofText x) (ofText y)).isLE ∨ (compare (ofText y) (ofText x)).isLE) ∧
      (compare (ofText x) (ofText y) = .eq ↔ foldDigits (trim x) = foldDigits (trim y))) ∧
    ∀ x rs ts, Tokenizes (foldDigits (trim x)).toList rs ts ↔
      rs = runs (foldDigits (trim x)).toList ∧ ts = (ofText x).tokens := by
  refine ⟨fun x y z => ⟨OrientedOrd.eq_swap, fun hle hge => ?_, TransOrd.isLE_trans,
    isLE_total_ofText x y, compare_ofText_eq_eq_iff⟩, fun x rs ts => tokenizes_fold_iff x⟩
  exact compare_ofText_eq_eq_iff.mp (OrientedCmp.isLE_antisymm hle hge)

/-- Letters in either case, digits of three scripts and a zero that does not count: the folded text
decides between two spellings of one number, and the number between two others. -/
theorem ofText_ordered_and_tokenized_spellings :
    compare (ofText " EMP-۰۲") (ofText "emp-2") = .lt ∧
    compare (ofText "emp-2") (ofText "EMP-10") = .lt ∧
    (compare (ofText " EMP-۰۲") (ofText "EMP-10")).isLE ∧
    compare (ofText " EMP-۰۲") (ofText "EMP-0٢\t") = .eq ∧
    Tokenizes (foldDigits (trim " EMP-۰۲")).toList ["EMP-".toList, "02".toList]
      [.word "emp-".toList, .number "2".toList] := by
  have hless : compare (ofText " EMP-۰۲") (ofText "emp-2") = .lt := rfl
  have hless' : compare (ofText "emp-2") (ofText "EMP-10") = .lt := rfl
  have hfold : foldDigits (trim " EMP-۰۲") = "EMP-02" := rfl
  have hfold' : foldDigits (trim "EMP-0٢\t") = "EMP-02" := rfl
  obtain ⟨horder, htokens⟩ := ofText_ordered_and_tokenized
  obtain ⟨-, -, htrans, -, -⟩ := horder " EMP-۰۲" "emp-2" "EMP-10"
  obtain ⟨-, -, -, -, hsame⟩ := horder " EMP-۰۲" "EMP-0٢\t" ""
  refine ⟨hless, hless', htrans ?_ ?_, hsame.mpr (hfold.trans hfold'.symm),
    (htokens " EMP-۰۲" _ _).mpr ⟨rfl, rfl⟩⟩
  · rw [hless]
    rfl
  · rw [hless']
    rfl

end NaturalKey

end Mentorship
