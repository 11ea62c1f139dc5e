import Mathlib.Algebra.Order.Field.Power
import Mathlib.Data.Int.Log
import Mathlib.Data.Rat.Floor
import Mathlib.Tactic.FieldSimp
import Mathlib.Tactic.Positivity
import Mentorship.Number.Binary64

/-! Rounding to floating-point numbers of 64 bits. What a quotient is rounded to depends on its
value alone, not on how it is written; and of the natural numbers, those with no more than 53
significant bits are kept and all others are changed. -/

namespace Mentorship.Number

/-! ### Quotients -/

section Quotients

variable {n d c : Nat}

theorem roundQuotient_mul_right (hc : 0 < c) :
    roundQuotient (n * c) (d * c) = roundQuotient n d := by
  unfold roundQuotient
  simp only [Nat.mul_div_mul_right _ _ hc, Nat.mul_mod_mul_right, ← Nat.mul_assoc,
    Nat.mul_lt_mul_right hc]

/-- An exact quotient is not rounded. -/
theorem roundQuotient_of_dvd (hd : 0 < d) (h : d ∣ n) : roundQuotient n d = n / d := by
  have hmod : n % d = 0 := Nat.mod_eq_zero_of_dvd h
  simp [roundQuotient, hmod, hd]

theorem roundQuotient_le : roundQuotient n d ≤ n / d + 1 := by
  simp only [roundQuotient]
  split_ifs <;> omega

end Quotients

namespace Binary64

/-! ### The exponent -/

section Exponent

variable {num den c : Nat}

theorem scaled_snd_pos (hd : 0 < den) (e : Int) : 0 < (scaled num den e).2 := by
  unfold scaled
  split_ifs
  · rw [Nat.shiftLeft_eq]
    positivity
  · exact hd

theorem scaled_eq (num den : Nat) (e : Int) :
    ((scaled num den e).1 : ℚ) / (scaled num den e).2 = num / den / 2 ^ e := by
  unfold scaled
  split_ifs with he
  · obtain ⟨k, rfl⟩ := Int.eq_ofNat_of_zero_le he
    simp [Nat.shiftLeft_eq, div_div]
  · obtain ⟨k, rfl⟩ := Int.exists_eq_neg_ofNat (not_le.mp he).le
    simp [Nat.shiftLeft_eq]
    ring

theorem scaled_mul_right (e : Int) :
    scaled (num * c) (den * c) e = ((scaled num den e).1 * c, (scaled num den e).2 * c) := by
  unfold scaled
  split_ifs <;> simp only [Nat.shiftLeft_eq, Nat.mul_right_comm]

/-- The scaled quotient compared with a power of two. -/
theorem scaled_lt_iff (hd : 0 < den) (e : Int) (k : Nat) :
    (scaled num den e).1 < 2 ^ k * (scaled num den e).2 ↔ (num : ℚ) / den < 2 ^ (k + e) := by
  have hpos : (0 : ℚ) < (scaled num den e).2 := by exact_mod_cast scaled_snd_pos hd e
  have hpow : (0 : ℚ) < 2 ^ e := by positivity
  rw [zpow_add₀ two_ne_zero, zpow_natCast, ← div_lt_iff₀ hpow, ← scaled_eq, div_lt_iff₀ hpos]
  exact_mod_cast Iff.rfl

/-- The lengths of numerator and denominator tell the logarithm up to one. -/
theorem log_div_bounds (hn : 0 < num) (hd : 0 < den) :
    (num.log2 : Int) - den.log2 - 1 ≤ Int.log 2 ((num : ℚ) / den) ∧
      Int.log 2 ((num : ℚ) / den) ≤ num.log2 - den.log2 := by
  have hden : (0 : ℚ) < den := by exact_mod_cast hd
  have hx : (0 : ℚ) < num / den := by positivity
  have hnlow : (2 : ℚ) ^ (num.log2 : Int) ≤ num := by exact_mod_cast Nat.log2_self_le hn.ne'
  have hnhigh : (num : ℚ) < 2 ^ ((num.log2 : Int) + 1) := by exact_mod_cast Nat.lt_log2_self
  have hdlow : (2 : ℚ) ^ (den.log2 : Int) ≤ den := by exact_mod_cast Nat.log2_self_le hd.ne'
  have hdhigh : (den : ℚ) < 2 ^ ((den.log2 : Int) + 1) := by exact_mod_cast Nat.lt_log2_self
  constructor
  · rw [← Int.zpow_le_iff_le_log (by decide) hx, le_div_iff₀ hden]
    calc (2 : ℚ) ^ ((num.log2 : Int) - den.log2 - 1) * den
        ≤ 2 ^ ((num.log2 : Int) - den.log2 - 1) * 2 ^ ((den.log2 : Int) + 1) := by gcongr
      _ = 2 ^ (num.log2 : Int) := by
        rw [← zpow_add₀ two_ne_zero]
        congr 1
        ring
      _ ≤ num := hnlow
  · rw [← Int.lt_add_one_iff, ← Int.lt_zpow_iff_log_lt (by decide) hx, div_lt_iff₀ hden]
    calc (num : ℚ) < 2 ^ ((num.log2 : Int) + 1) := hnhigh
      _ = 2 ^ ((num.log2 : Int) - den.log2 + 1) * 2 ^ (den.log2 : Int) := by
        rw [← zpow_add₀ two_ne_zero]
        congr 1
        ring
      _ ≤ 2 ^ ((num.log2 : Int) - den.log2 + 1) * den := by gcongr

/-- The exponent is that of the greatest power of two up to the quotient. -/
theorem exponentFor_eq (hn : 0 < num) (hd : 0 < den) :
    exponentFor num den = max leastExponent (Int.log 2 ((num : ℚ) / den) - 52) := by
  obtain ⟨hlow, hhigh⟩ := log_div_bounds hn hd
  have hx : (0 : ℚ) < num / den := by positivity
  set e : Int := (num.log2 : Int) - den.log2 - 52 with he
  have htest : (scaled num den e).1 < leastNormal * (scaled num den e).2 ↔
      Int.log 2 ((num : ℚ) / den) < num.log2 - den.log2 := by
    rw [show leastNormal = 2 ^ 52 from rfl, scaled_lt_iff hd, ← Int.lt_zpow_iff_log_lt (by decide) hx,
      he]
    norm_num
  have hdef : exponentFor num den = max leastExponent
      (if (scaled num den e).1 < leastNormal * (scaled num den e).2 then e - 1 else e) := rfl
  rw [hdef]
  split_ifs with h <;> rw [htest] at h <;> congr 1 <;> omega

theorem exponentFor_mul_right (hn : 0 < num) (hd : 0 < den) (hc : 0 < c) :
    exponentFor (num * c) (den * c) = exponentFor num den := by
  have hc' : (c : ℚ) ≠ 0 := by positivity
  rw [exponentFor_eq (Nat.mul_pos hn hc) (Nat.mul_pos hd hc), exponentFor_eq hn hd]
  push_cast
  rw [mul_div_mul_right _ _ hc']

end Exponent

/-- Rounding depends on the value of the quotient alone. -/
theorem nearest_mul_right {num den c : Nat} (hd : 0 < den) (hc : 0 < c) (negative : Bool) :
    nearest negative (num * c) (den * c) = nearest negative num den := by
  rcases Nat.eq_zero_or_pos num with rfl | hn
  · simp [nearest]
  · have hn' : num * c ≠ 0 := (Nat.mul_pos hn hc).ne'
    simp only [nearest, beq_eq_false_iff_ne.mpr hn.ne', beq_eq_false_iff_ne.mpr hn',
      exponentFor_mul_right hn hd hc, scaled_mul_right, roundQuotient_mul_right hc]

/-! ### Natural numbers -/

/-- At most 53 significant bits, and zeros after them. -/
def IsExact (n : Nat) : Prop :=
  ∃ m k, m < 2 ^ 53 ∧ n = m * 2 ^ k

/-- The number nearest to `n` among those with 53 significant bits. -/
def nearestNat (n : Nat) : Nat :=
  roundQuotient n (2 ^ (n.log2 - 52)) * 2 ^ (n.log2 - 52)

section NaturalNumbers

variable {n : Nat}

theorem isExact_of_le (h : n ≤ 2 ^ 53) : IsExact n := by
  rcases h.lt_or_eq with h | rfl
  · exact ⟨n, 0, h, by simp⟩
  · exact ⟨1, 53, by decide, by simp⟩

/-- What is left without the bits that fall off. -/
theorem div_pow_lt (n : Nat) : n / 2 ^ (n.log2 - 52) < 2 ^ 53 := by
  rw [Nat.div_lt_iff_lt_mul (by positivity), ← pow_add]
  exact Nat.lt_log2_self.trans_le (Nat.pow_le_pow_right (by decide) (by omega))

/-- The bits that fall off are zeros. -/
theorem isExact_iff_dvd : IsExact n ↔ 2 ^ (n.log2 - 52) ∣ n := by
  constructor
  · rintro ⟨m, k, hm, hn⟩
    by_cases hk : n.log2 - 52 ≤ k
    · have hdvd : 2 ^ (n.log2 - 52) ∣ m * 2 ^ k := (Nat.pow_dvd_pow 2 hk).mul_left m
      rwa [← hn] at hdvd
    · have hlow : 2 ^ n.log2 ≤ n := Nat.log2_self_le (by rintro rfl; simp at hk)
      have hhigh : m * 2 ^ k < 2 ^ 53 * 2 ^ k := Nat.mul_lt_mul_of_pos_right hm (by positivity)
      have hle : 2 ^ (53 + k) ≤ 2 ^ n.log2 := Nat.pow_le_pow_right (by decide) (by omega)
      rw [pow_add] at hle
      omega
  · intro h
    exact ⟨n / 2 ^ (n.log2 - 52), n.log2 - 52, div_pow_lt n, (Nat.div_mul_cancel h).symm⟩

theorem nearestNat_of_log2_le (h : n.log2 ≤ 52) : nearestNat n = n := by
  rw [nearestNat, Nat.sub_eq_zero_of_le h, pow_zero, mul_one,
    roundQuotient_of_dvd Nat.one_pos (Nat.one_dvd n), Nat.div_one]

theorem nearestNat_eq_iff : nearestNat n = n ↔ IsExact n := by
  rw [isExact_iff_dvd]
  constructor
  · intro h
    exact Dvd.intro_left _ h
  · intro h
    rw [nearestNat, roundQuotient_of_dvd (by positivity) h, Nat.div_mul_cancel h]

/-- Rounding goes up to the next power of two at most. -/
theorem nearestNat_le : nearestNat n ≤ 2 ^ (n.log2 + 1) := by
  by_cases hlog : n.log2 ≤ 52
  · exact (nearestNat_of_log2_le hlog).trans_le Nat.lt_log2_self.le
  · have hdiv := div_pow_lt n
    have hround := roundQuotient_le (n := n) (d := 2 ^ (n.log2 - 52))
    calc nearestNat n ≤ 2 ^ 53 * 2 ^ (n.log2 - 52) := Nat.mul_le_mul_right _ (by omega)
      _ = 2 ^ (n.log2 + 1) := by
        rw [← pow_add]
        congr 1
        omega

/-- Rounding goes past no power of two. -/
theorem nearestNat_le_of_le {k : Nat} (h : n ≤ 2 ^ k) : nearestNat n ≤ 2 ^ k := by
  rcases Nat.eq_zero_or_pos n with rfl | hn
  · rw [nearestNat_of_log2_le (by simp)]
    exact h
  rcases h.lt_or_eq with hlt | rfl
  · have hlog : n.log2 < k := (Nat.log2_lt hn.ne').mpr hlt
    exact nearestNat_le.trans (Nat.pow_le_pow_right (by decide) hlog)
  · exact (nearestNat_eq_iff.mpr ⟨1, k, by decide, (one_mul _).symm⟩).le

theorem scaled_natCast (num den k : Nat) : scaled num den k = (num, den * 2 ^ k) := by
  simp [scaled, Nat.shiftLeft_eq]

theorem scaled_neg (num den k : Nat) : scaled num den (-k) = (num * 2 ^ k, den) := by
  cases k with
  | zero => simp [scaled]
  | succ k => rw [scaled, if_neg (by omega), neg_neg, Int.toNat_natCast, Nat.shiftLeft_eq]

theorem integral?_natCast (negative : Bool) (m k : Nat) :
    integral? (.finite negative m k) = some (signed negative (m * 2 ^ k)) := by
  simp [integral?, magnitude, Nat.shiftLeft_eq, Nat.mod_one]

theorem integral?_neg (negative : Bool) (m k : Nat) :
    integral? (.finite negative (m * 2 ^ k) (-k)) = some (signed negative m) := by
  cases k with
  | zero => simpa using integral?_natCast negative m 0
  | succ k =>
    have hmag : magnitude (m * 2 ^ (k + 1)) (-(k + 1 : Nat)) = (m * 2 ^ (k + 1), 2 ^ (k + 1)) := by
      rw [magnitude, if_neg (by omega), neg_neg, Int.toNat_natCast, Nat.one_shiftLeft]
    simp only [integral?, hmag]
    simp

theorem exponentFor_one (hn : 0 < n) : exponentFor n 1 = (n.log2 : Int) - 52 := by
  have hlog : Int.log 2 ((n : ℚ) / (1 : Nat)) = n.log2 := by
    rw [Nat.cast_one, div_one, Int.log_natCast, Nat.log2_eq_log_two]
  rw [exponentFor_eq hn Nat.one_pos, hlog, max_eq_right]
  unfold leastExponent
  omega

section Nearest

variable {num den q : Nat} {e : Int} {negative : Bool}

/-- A quotient of 53 bits is kept as the significand. -/
theorem nearest_of_lt (hn : 0 < num) (he : exponentFor num den = e) (hmax : e ≤ greatestExponent)
    (hq : roundQuotient (scaled num den e).1 (scaled num den e).2 = q) (hlt : q < 2 ^ 53) :
    nearest negative num den = .finite negative q e := by
  have hcarry : (q == 2 * leastNormal) = false := beq_eq_false_iff_ne.mpr hlt.ne
  simp [nearest, hn.ne', he, hq, hcarry, hmax.not_gt]

/-- A quotient that is rounded up to 54 bits goes into the next exponent. -/
theorem nearest_of_eq (hn : 0 < num) (he : exponentFor num den = e) (hmax : e < greatestExponent)
    (hq : roundQuotient (scaled num den e).1 (scaled num den e).2 = 2 ^ 53) :
    nearest negative num den = .finite negative (2 ^ 52) (e + 1) := by
  have hmax' : ¬ greatestExponent < e + 1 := by omega
  simp [nearest, hn.ne', he, hq, hmax', leastNormal]

end Nearest

/-- A natural number is rounded to the nearest one with 53 significant bits. -/
theorem integral?_nearest (hlog : n.log2 < 1022) (negative : Bool) :
    (nearest negative n 1).integral? = some (signed negative (nearestNat n)) := by
  rcases Nat.eq_zero_or_pos n with rfl | hn
  · have hzero := integral?_neg negative 0 1074
    rw [Nat.zero_mul] at hzero
    rw [nearestNat_of_log2_le (by simp)]
    exact hzero
  have he := exponentFor_one hn
  by_cases hsmall : n.log2 ≤ 52
  · obtain ⟨k, hk⟩ := Nat.exists_eq_add_of_le hsmall
    have hfits : n * 2 ^ k < 2 ^ 53 := by
      rw [show 53 = n.log2 + 1 + k by omega, pow_add]
      exact Nat.mul_lt_mul_of_pos_right Nat.lt_log2_self (by positivity)
    rw [show (n.log2 : Int) - 52 = -k by omega] at he
    rw [nearest_of_lt hn he (by unfold greatestExponent; omega)
      (by rw [scaled_neg, roundQuotient_of_dvd Nat.one_pos (Nat.one_dvd _), Nat.div_one]) hfits,
      integral?_neg, nearestNat_of_log2_le hsmall]
  · obtain ⟨k, hk⟩ := Nat.exists_eq_add_of_le (not_le.mp hsmall).le
    have hunit : n.log2 - 52 = k := by omega
    have hdiv : n / 2 ^ k < 2 ^ 53 := hunit ▸ div_pow_lt n
    have hround := roundQuotient_le (n := n) (d := 2 ^ k)
    have hq : roundQuotient (scaled n 1 k).1 (scaled n 1 k).2 = roundQuotient n (2 ^ k) := by
      rw [scaled_natCast, one_mul]
    rw [show (n.log2 : Int) - 52 = k by omega] at he
    rw [nearestNat, hunit]
    by_cases hcarry : roundQuotient n (2 ^ k) = 2 ^ 53
    · rw [nearest_of_eq hn he (by unfold greatestExponent; omega) (hq.trans hcarry), hcarry]
      rw [show (2 : Nat) ^ 53 * 2 ^ k = 2 ^ 52 * 2 ^ (k + 1) by ring]
      exact integral?_natCast negative (2 ^ 52) (k + 1)
    · rw [nearest_of_lt hn he (by unfold greatestExponent; omega) hq (by omega),
        integral?_natCast]

/-- A decimal that ends in as many zeros as it has places is rounded as the natural number. -/
theorem ofDecimal_mul_pow {k p : Nat} (hn : n < 10 ^ p) (hp : p ≤ 310) (hk : 0 < k)
    (negative : Bool) :
    ofDecimal (.finite negative (n * 10 ^ k) (-k)) = nearest negative n 1 := by
  rcases Nat.eq_zero_or_pos n with rfl | hpos
  · simp [ofDecimal, nearest]
  have hten : 0 < 10 ^ k := by positivity
  have hne : n * 10 ^ k ≠ 0 := (Nat.mul_pos hpos hten).ne'
  -- the length of the coefficient is within the limits on both sides
  have hlong : (Text.digitsOfNat (n * 10 ^ k)).length ≤ p + k := by
    rw [Text.digitsOfNat, Nat.length_toDigits_le_iff (by decide) (by omega), pow_add]
    exact Nat.mul_lt_mul_of_pos_right hn hten
  have hshort : k < (Text.digitsOfNat (n * 10 ^ k)).length := by
    rw [← not_le, Text.digitsOfNat, Nat.length_toDigits_le_iff (by decide) hk, not_lt]
    exact Nat.le_mul_of_pos_left _ hpos
  have hhigh : ¬ digitsAboveFinite < ((Text.digitsOfNat (n * 10 ^ k)).length : Int) + -k := by
    unfold digitsAboveFinite
    omega
  have hlow : ¬ ((Text.digitsOfNat (n * 10 ^ k)).length : Int) + -k < digitsBelowTiny := by
    unfold digitsBelowTiny
    omega
  have hneg : ¬ (0 : Int) ≤ -k := by omega
  simp only [ofDecimal, beq_eq_false_iff_ne.mpr hne, Bool.false_eq_true, if_false, hhigh, hlow,
    hneg, neg_neg, Int.toNat_natCast, Nat.pow_eq]
  have hvalue : nearest negative (n * 10 ^ k) (1 * 10 ^ k) = nearest negative n 1 :=
    nearest_mul_right Nat.one_pos hten negative
  rwa [Nat.one_mul] at hvalue

end NaturalNumbers

/-! ### Integers -/

/-- The integer nearest to `n` among those with 53 significant bits. -/
def nearestInt (n : Int) : Int :=
  signed (n < 0) (nearestNat n.natAbs)

section Integers

variable {n : Int}

@[simp] theorem natAbs_signed (negative : Bool) (m : Nat) : (signed negative m).natAbs = m := by
  cases negative <;> simp [signed]

/-- Either sign may stand in front of zero. -/
theorem signed_nearestNat (negative : Bool) (m : Nat) :
    signed negative (nearestNat m) = nearestInt (signed negative m) := by
  have hzero : nearestNat 0 = 0 := nearestNat_of_log2_le (by simp)
  rw [nearestInt, natAbs_signed]
  rcases Nat.eq_zero_or_pos m with rfl | hm
  · simp [hzero, signed]
  · cases negative <;> simp [signed, hm]

theorem natAbs_nearestInt (n : Int) : (nearestInt n).natAbs = nearestNat n.natAbs :=
  natAbs_signed _ _

theorem nearestInt_eq_iff : nearestInt n = n ↔ IsExact n.natAbs := by
  rw [← nearestNat_eq_iff, nearestInt]
  by_cases hn : n < 0 <;> simp [hn, signed] <;> omega

end Integers

end Binary64

end Mentorship.Number
