import Mathlib.Data.List.SplitBy
import Mathlib.Tactic.Ring
import Mentorship.NaturalKey
import Mentorship.Proofs.Trimming

/-! The natural order of identifiers. Keys are linearly ordered, since a token compares by its kind,
its length and its characters in turn. Runs of digits compare by the numbers that they denote, so
that the keys of two identifiers of equally many digits are ordered as their numbers are. -/

namespace Mentorship

open Std Text

/-! ### Linear orders -/

namespace NaturalToken

/-- What a token compares by, in turn: its kind, the length of a number, and its characters. -/
def parts : NaturalToken → Nat × Nat × List Char
  | number d => (0, d.length, d)
  | word u => (1, 0, u)

def orderByParts : NaturalToken → NaturalToken → Ordering :=
  compareLex (compareOn fun t => t.parts.1)
    (compareLex (compareOn fun t => t.parts.2.1) (compareOn fun t => t.parts.2.2))

theorem order_eq_orderByParts : order = orderByParts := by
  funext x y
  cases x <;> cases y <;> simp [order, orderByParts, compareLex, compareOn, parts] <;> rfl

instance : TransCmp orderByParts :=
  inferInstanceAs (TransCmp (compareLex _ _))

instance : TransCmp order := order_eq_orderByParts ▸ inferInstanceAs (TransCmp orderByParts)

instance : TransOrd NaturalToken := inferInstanceAs (TransCmp order)

instance : LawfulEqOrd NaturalToken where
  eq_of_compare {x y} h := by
    change order x y = .eq at h
    cases x <;> cases y <;> simp_all [order, Ordering.then_eq_eq]

end NaturalToken

namespace NaturalKey

instance : TransCmp order :=
  inferInstanceAs (TransCmp (compareLex (compareOn tokens) (compareOn folded)))

instance : TransOrd NaturalKey := inferInstanceAs (TransCmp order)

instance : LawfulEqOrd NaturalKey where
  eq_of_compare {x y} h := by
    change order x y = .eq at h
    cases x
    cases y
    simp_all [order, Ordering.then_eq_eq]

/-- Keys tell identifiers apart up to blanks around them and the spelling of digits. -/
theorem ofText_eq_ofText_iff {s t : String} : ofText s = ofText t ↔ fold s = fold t := by
  rw [ofText, ofText, mk.injEq]
  exact ⟨And.right, fun h => ⟨by rw [h], h⟩⟩

end NaturalKey

/-! ### Numbers in digits -/

namespace Text

theorem isDigit_iff {c : Char} : isDigit c = true ↔ 48 ≤ c.toNat ∧ c.toNat ≤ 57 := by
  simp only [isDigit, Bool.and_eq_true, decide_eq_true_eq, Char.le_def, UInt32.le_iff_toNat_le]
  rfl

theorem digitValue_lt {c : Char} (h : isDigit c = true) : digitValue c < 10 := by
  have h0 : '0'.toNat = 48 := rfl
  rw [isDigit_iff] at h
  rw [digitValue, h0]
  omega

/-- Digits compare by their values. -/
theorem compare_digits {c d : Char} (hc : isDigit c = true) (hd : isDigit d = true) :
    compare c d = compare (digitValue c) (digitValue d) := by
  have h0 : '0'.toNat = 48 := rfl
  rw [isDigit_iff] at hc hd
  simp only [Char.toNat] at hc hd h0
  simp only [compare, compareOfLessAndEq, digitValue, Char.toNat, Char.lt_def, Char.ext_iff,
    UInt32.lt_iff_toNat_lt, ← UInt32.toNat_inj, h0]
  split_ifs <;> first | rfl | omega

theorem foldl_natOfDigits (n : Nat) (cs : List Char) :
    cs.foldl (fun n c => 10 * n + digitValue c) n = n * 10 ^ cs.length + natOfDigits cs := by
  induction cs generalizing n with
  | nil => simp [natOfDigits]
  | cons c cs ih =>
    simp only [natOfDigits, List.foldl_cons, ih (10 * n + digitValue c),
      ih (10 * 0 + digitValue c), List.length_cons]
    ring

theorem natOfDigits_append (cs ds : List Char) :
    natOfDigits (cs ++ ds) = natOfDigits cs * 10 ^ ds.length + natOfDigits ds := by
  rw [natOfDigits, List.foldl_append, foldl_natOfDigits]
  rfl

/-- The first digit counts the most. -/
theorem natOfDigits_cons (c : Char) (cs : List Char) :
    natOfDigits (c :: cs) = digitValue c * 10 ^ cs.length + natOfDigits cs := by
  rw [natOfDigits, List.foldl_cons, foldl_natOfDigits, Nat.mul_zero, Nat.zero_add]

theorem natOfDigits_lt {cs : List Char} (h : ∀ c ∈ cs, isDigit c = true) :
    natOfDigits cs < 10 ^ cs.length := by
  induction cs with
  | nil => simp [natOfDigits]
  | cons c cs ih =>
    have hc := digitValue_lt (h c List.mem_cons_self)
    have hcs := ih fun d hd => h d (List.mem_cons_of_mem c hd)
    have hmul : digitValue c * 10 ^ cs.length ≤ 9 * 10 ^ cs.length :=
      Nat.mul_le_mul_right _ (by omega)
    rw [natOfDigits_cons, List.length_cons, pow_succ]
    omega

theorem pow_le_natOfDigits {c : Char} (h : isDigit c = true) (h0 : c ≠ '0') (cs : List Char) :
    10 ^ cs.length ≤ natOfDigits (c :: cs) := by
  have hpos : 1 ≤ digitValue c := by
    by_contra hlt
    have hzero : digitValue c = digitValue '0' := by
      rw [show digitValue '0' = 0 from rfl]
      omega
    have heq := compare_digits h (show isDigit '0' = true from rfl)
    rw [hzero, Nat.compare_eq_eq.mpr rfl] at heq
    exact h0 (LawfulEqOrd.eq_of_compare heq)
  rw [natOfDigits_cons]
  have hmul := Nat.mul_le_mul_right (10 ^ cs.length) hpos
  omega

/-- A number without leading zeros exceeds all that have fewer digits. -/
theorem natOfDigits_lt_of_length_lt {ds es : List Char} (hd : ∀ c ∈ ds, isDigit c = true)
    (he : ∀ c ∈ es, isDigit c = true) (he0 : es.head? ≠ some '0') (h : ds.length < es.length) :
    natOfDigits ds < natOfDigits es := by
  cases es with
  | nil => simp at h
  | cons e es =>
    have he0 : e ≠ '0' := by simpa using he0
    have hle : 10 ^ ds.length ≤ 10 ^ es.length :=
      Nat.pow_le_pow_right (by omega) (by simpa using Nat.le_of_lt_succ h)
    have hlow := pow_le_natOfDigits (he e List.mem_cons_self) he0 es
    have hhigh := natOfDigits_lt hd
    omega

/-- Leading zeros do not count. -/
theorem natOfDigits_dropWhile_zero (cs : List Char) :
    natOfDigits (cs.dropWhile (· == '0')) = natOfDigits cs := by
  induction cs with
  | nil => rfl
  | cons c cs ih =>
    rw [List.dropWhile_cons]
    split
    · rename_i h
      rw [ih, natOfDigits_cons, beq_iff_eq.mp h]
      simp [digitValue]
    · rfl

/-- A number in a base compares by its leading part first. -/
theorem compare_mul_add {a b x y n : Nat} (hx : x < n) (hy : y < n) :
    compare (a * n + x) (b * n + y) = (compare a b).then (compare x y) := by
  rcases Nat.lt_trichotomy a b with h | h | h
  · have hmul := Nat.mul_le_mul_right n h
    rw [Nat.succ_mul] at hmul
    rw [Nat.compare_eq_lt.mpr h, Nat.compare_eq_lt.mpr (by omega)]
    rfl
  · subst h
    rw [Nat.compare_eq_eq.mpr rfl, Ordering.eq_then]
    rcases Nat.lt_trichotomy x y with h | h | h
    · rw [Nat.compare_eq_lt.mpr h, Nat.compare_eq_lt.mpr (by omega)]
    · rw [h]
      simp
    · rw [Nat.compare_eq_gt.mpr h, Nat.compare_eq_gt.mpr (by omega)]
  · have hmul := Nat.mul_le_mul_right n h
    rw [Nat.succ_mul] at hmul
    rw [Nat.compare_eq_gt.mpr h, Nat.compare_eq_gt.mpr (by omega)]
    rfl

/-- Equally many digits compare, character by character, as the numbers that they denote. -/
theorem compare_eq_compare_natOfDigits {ds es : List Char} (hd : ∀ c ∈ ds, isDigit c = true)
    (he : ∀ c ∈ es, isDigit c = true) (hlen : ds.length = es.length) :
    compare ds es = compare (natOfDigits ds) (natOfDigits es) := by
  induction ds generalizing es with
  | nil =>
    have hnil : es = [] := List.length_eq_zero_iff.mp hlen.symm
    subst hnil
    rfl
  | cons d ds ih =>
    cases es with
    | nil => simp at hlen
    | cons e es =>
      have hds : ∀ c ∈ ds, isDigit c = true := fun c hc => hd c (List.mem_cons_of_mem d hc)
      have hes : ∀ c ∈ es, isDigit c = true := fun c hc => he c (List.mem_cons_of_mem e hc)
      have hlen' : ds.length = es.length := by simpa using hlen
      have hbound : natOfDigits ds < 10 ^ es.length := hlen' ▸ natOfDigits_lt hds
      have hrest := ih hds hes hlen'
      rw [List.compare_eq_compareLex] at hrest ⊢
      rw [List.compareLex_cons_cons, hrest,
        compare_digits (hd d List.mem_cons_self) (he e List.mem_cons_self), natOfDigits_cons,
        natOfDigits_cons, hlen', compare_mul_add hbound (natOfDigits_lt hes)]

/-- Equally many digits that denote one number are the same. -/
theorem eq_of_natOfDigits_eq {ds es : List Char} (hd : ∀ c ∈ ds, isDigit c = true)
    (he : ∀ c ∈ es, isDigit c = true) (hlen : ds.length = es.length)
    (h : natOfDigits ds = natOfDigits es) : ds = es := by
  have hcmp := compare_eq_compare_natOfDigits hd he hlen
  rw [h, Nat.compare_eq_eq.mpr rfl] at hcmp
  exact LawfulEqOrd.eq_of_compare hcmp

theorem isBlank_of_isDigit {c : Char} (h : isDigit c = true) : isBlank c = false := by
  rw [isDigit_iff] at h
  simp only [isBlank, Bool.or_eq_false_iff, Bool.and_eq_false_iff, beq_eq_false_iff_ne,
    decide_eq_false_iff_not]
  omega

theorem foldDigit_of_isDigit {c : Char} (h : isDigit c = true) : foldDigit c = c := by
  rw [isDigit_iff] at h
  rw [foldDigit, if_neg (by simp; omega), if_neg (by simp; omega)]

theorem isDigit_ofNat : ∀ k ≤ 9, isDigit (Char.ofNat ('0'.toNat + k)) = true := by
  decide

theorem foldDigit_eq_or_isDigit (c : Char) : foldDigit c = c ∨ isDigit (foldDigit c) = true := by
  unfold foldDigit
  dsimp only
  split_ifs with hpersian harabic
  · simp only [Bool.and_eq_true, decide_eq_true_eq] at hpersian
    exact .inr (isDigit_ofNat _ (by omega))
  · simp only [Bool.and_eq_true, decide_eq_true_eq] at harabic
    exact .inr (isDigit_ofNat _ (by omega))
  · exact .inl rfl

theorem foldDigit_foldDigit (c : Char) : foldDigit (foldDigit c) = foldDigit c := by
  rcases foldDigit_eq_or_isDigit c with h | h
  · rw [h, h]
  · exact foldDigit_of_isDigit h

theorem trim_of_digits {s : String} (h : ∀ c ∈ s.toList, isDigit c = true) : trim s = s :=
  trim_of_not_isBlank fun c hc => isBlank_of_isDigit (h c hc)

theorem foldDigits_of_forall {s : String} (h : ∀ c ∈ s.toList, foldDigit c = c) :
    foldDigits s = s := by
  rw [foldDigits, List.map_congr_left h, List.map_id', String.ofList_toList]

theorem foldDigits_of_digits {s : String} (h : ∀ c ∈ s.toList, isDigit c = true) :
    foldDigits s = s :=
  foldDigits_of_forall fun c hc => foldDigit_of_isDigit (h c hc)

end Text

/-! ### Keys of digits -/

namespace NaturalToken

variable {ds es : List Char}

/-- Numbers without leading zeros compare by value. -/
theorem order_number (hd : ∀ c ∈ ds, isDigit c = true) (he : ∀ c ∈ es, isDigit c = true)
    (hd0 : ds.head? ≠ some '0') (he0 : es.head? ≠ some '0') :
    order (number ds) (number es) = compare (natOfDigits ds) (natOfDigits es) := by
  rw [order]
  rcases Nat.lt_trichotomy ds.length es.length with h | h | h
  · rw [Nat.compare_eq_lt.mpr h, Nat.compare_eq_lt.mpr (natOfDigits_lt_of_length_lt hd he he0 h)]
    rfl
  · rw [Nat.compare_eq_eq.mpr h, Ordering.eq_then, compare_eq_compare_natOfDigits hd he h]
  · rw [Nat.compare_eq_gt.mpr h, Nat.compare_eq_gt.mpr (natOfDigits_lt_of_length_lt he hd hd0 h)]
    rfl

/-- A run of digits is a number. -/
theorem ofRun_of_digits (hne : ds ≠ []) (hd : ∀ c ∈ ds, isDigit c = true) :
    ofRun ds = .number (ds.dropWhile (· == '0')) := by
  cases ds with
  | nil => contradiction
  | cons c cs =>
    unfold ofRun
    rw [if_pos (by simp [hd c List.mem_cons_self])]

/-- Runs of digits compare by value, whatever zeros they begin with. -/
theorem compare_ofRun_of_digits (hne : ds ≠ []) (hne' : es ≠ []) (hd : ∀ c ∈ ds, isDigit c = true)
    (he : ∀ c ∈ es, isDigit c = true) :
    compare (ofRun ds) (ofRun es) = compare (natOfDigits ds) (natOfDigits es) := by
  have hstrip : ∀ {cs : List Char}, (cs.dropWhile (· == '0')).head? ≠ some '0' := by
    intro cs h
    have := List.head?_dropWhile_not (· == '0') cs
    simp [h] at this
  rw [ofRun_of_digits hne hd, ofRun_of_digits hne' he, ← natOfDigits_dropWhile_zero ds,
    ← natOfDigits_dropWhile_zero es]
  exact order_number (fun c hc => hd c ((List.dropWhile_sublist _).mem hc))
    (fun c hc => he c ((List.dropWhile_sublist _).mem hc)) hstrip hstrip

end NaturalToken

namespace NaturalKey

/-- Digits that follow one another are a single run. -/
theorem runs_of_digits {cs : List Char} (hne : cs ≠ []) (h : ∀ c ∈ cs, isDigit c = true) :
    runs cs = [cs] := by
  apply List.splitBy_of_isChain hne
  rw [List.isChain_iff_getElem]
  intro i hi
  simp [h _ (List.getElem_mem _)]

/-- The key of digits is a single number. -/
theorem ofText_of_digits {s : String} (hne : s.toList ≠ []) (h : ∀ c ∈ s.toList, isDigit c = true) :
    ofText s = ⟨[.ofRun s.toList], s⟩ := by
  have hfold : fold s = s := by rw [fold, trim_of_digits h, foldDigits_of_digits h]
  rw [ofText, hfold, runs_of_digits hne h, List.map_singleton]

/-- Texts of equally many digits are ordered as the numbers that they denote. -/
theorem compare_ofText_of_digits {s t : String} (hne : s.toList ≠ [])
    (hs : ∀ c ∈ s.toList, isDigit c = true) (ht : ∀ c ∈ t.toList, isDigit c = true)
    (hlen : s.toList.length = t.toList.length) :
    compare (ofText s) (ofText t) = compare (natOfDigits s.toList) (natOfDigits t.toList) := by
  have hne' : t.toList ≠ [] := by
    rw [← List.length_pos_iff] at hne ⊢
    omega
  have htokens : compare (ofText s).tokens (ofText t).tokens =
      compare (natOfDigits s.toList) (natOfDigits t.toList) := by
    rw [ofText_of_digits hne hs, ofText_of_digits hne' ht, List.compare_cons_cons,
      compare_self, Ordering.then_eq, NaturalToken.compare_ofRun_of_digits hne hne' hs ht]
  change order (ofText s) (ofText t) = _
  rw [order, htokens]
  cases hc : compare (natOfDigits s.toList) (natOfDigits t.toList) with
  | lt => rfl
  | gt => rfl
  | eq =>
    -- equal numbers in equally many digits are equal texts
    rw [← compare_eq_compare_natOfDigits hs ht hlen] at hc
    have heq : s = t := String.toList_inj.mp (LawfulEqOrd.eq_of_compare hc)
    rw [heq]
    exact ReflOrd.compare_self

end NaturalKey

end Mentorship
