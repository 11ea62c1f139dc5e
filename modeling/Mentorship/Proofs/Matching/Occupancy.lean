import Mathlib.Algebra.Order.Field.Rat
import Mathlib.Algebra.Order.Ring.Abs
import Mathlib.Data.Rat.Cast.Order
import Mathlib.Order.Compare
import Mentorship.Matching.Mentor

/-! Occupancy. Seats are signed words of 64 bits, and the used ones are multiplied across in 128
bits, where no product is lost: mentors are compared by the fractions of used seats by seats in all.
The used seats themselves wrap; wherever they fit in their word, the fraction is the exact one. -/

namespace Mentorship.Matching

/-! ### Words -/

/-- Whether a number is one of signed words of some bits. -/
def FitsWord (bits : Nat) (n : Int) : Prop :=
  -2 ^ (bits - 1) ≤ n ∧ n < 2 ^ (bits - 1)

instance (bits : Nat) (n : Int) : Decidable (FitsWord bits n) :=
  inferInstanceAs (Decidable (_ ∧ _))

theorem FitsWord.bmod_eq {bits : Nat} (hbits : 0 < bits) {n : Int} (h : FitsWord bits n) :
    n.bmod (2 ^ bits) = n := by
  obtain ⟨hlow, hhigh⟩ := h
  have htwice : (2 : Int) ^ bits = 2 * 2 ^ (bits - 1) := by
    rw [← pow_succ', Nat.sub_add_cancel hbits]
  apply Int.bmod_eq_of_le <;> push_cast <;> omega

theorem fitsWord_toInt (x : Int64) : FitsWord 64 x.toInt :=
  ⟨x.le_toInt, x.toInt_lt⟩

theorem FitsWord.toInt_ofInt {n : Int} (h : FitsWord 64 n) : (Int64.ofInt n).toInt = n :=
  Int64.toInt_ofInt_of_le h.1 h.2

/-- A product of numbers of 64 bits fits in 128. -/
theorem FitsWord.mul {m n : Int} (hm : FitsWord 64 m) (hn : FitsWord 64 n) :
    FitsWord 128 (m * n) := by
  have hbound {k : Int} (hk : FitsWord 64 k) : |k| ≤ 2 ^ 63 := abs_le.mpr ⟨hk.1, hk.2.le⟩
  have hproduct : |m * n| ≤ 2 ^ 63 * 2 ^ 63 := by
    rw [abs_mul]
    exact mul_le_mul (hbound hm) (hbound hn) (abs_nonneg n) (by decide)
  obtain ⟨hlow, hhigh⟩ := abs_le.mp hproduct
  exact ⟨le_trans (by decide) hlow, lt_of_le_of_lt hhigh (by decide)⟩

/-- The product of two words in 128 bits. -/
def wideProduct (x y : Int64) : BitVec 128 :=
  x.toBitVec.signExtend 128 * y.toBitVec.signExtend 128

theorem toInt_wideProduct (x y : Int64) : (wideProduct x y).toInt = x.toInt * y.toInt := by
  have hwide (z : Int64) : (z.toBitVec.signExtend 128).toInt = z.toInt :=
    BitVec.toInt_signExtend_of_le (by decide)
  rw [wideProduct, BitVec.toInt_mul, hwide, hwide]
  exact FitsWord.bmod_eq (by decide) ((fitsWord_toInt x).mul (fitsWord_toInt y))

namespace Mentor

/-! ### Used seats -/

theorem size_pos (m : Mentor) : 0 < m.size :=
  Int.lt_of_lt_of_le Int.zero_lt_one (Int.le_max_right _ _)

/-- A mentor whose seats, free, in all and used, are numbers of 64 bits. -/
structure SeatsFit (m : Mentor) : Prop where
  remaining : FitsWord 64 m.remaining
  initial : FitsWord 64 m.initial
  difference : FitsWord 64 (m.initial - m.remaining)

instance (m : Mentor) : Decidable m.SeatsFit :=
  decidable_of_iff
    (FitsWord 64 m.remaining ∧ FitsWord 64 m.initial ∧ FitsWord 64 (m.initial - m.remaining))
    ⟨fun ⟨hr, hi, hd⟩ => ⟨hr, hi, hd⟩, fun ⟨hr, hi, hd⟩ => ⟨hr, hi, hd⟩⟩

theorem SeatsFit.used_eq {m : Mentor} (h : m.SeatsFit) : m.used = m.initial - m.remaining := by
  rw [used, Int64.toInt_sub, h.initial.toInt_ofInt, h.remaining.toInt_ofInt]
  exact FitsWord.bmod_eq (by decide) h.difference

/-! ### Fractions -/

/-- Used seats by size, as a fraction. -/
def load (m : Mentor) : ℚ :=
  m.used / m.size

theorem SeatsFit.load_eq {m : Mentor} (h : m.SeatsFit) :
    m.load = ((m.initial - m.remaining : Int) : ℚ) / (max m.initial 1 : Int) := by
  rw [load, h.used_eq, size]

theorem load_lt_load {a b : Mentor} : a.load < b.load ↔ a.used * b.size < b.used * a.size := by
  have ha : (0 : ℚ) < a.size := by exact_mod_cast a.size_pos
  have hb : (0 : ℚ) < b.size := by exact_mod_cast b.size_pos
  rw [load, load, div_lt_div_iff₀ ha hb]
  norm_cast

/-- Occupancies compare as fractions do. -/
theorem compareOccupancy_eq : compareOccupancy = compareOn load := by
  funext a b
  have hab := load_lt_load (a := a) (b := b)
  have hba := load_lt_load (a := b) (b := a)
  rw [compareOccupancy, compareOn]
  rcases lt_trichotomy a.load b.load with h | h | h
  · rw [compare_lt_iff_lt.mpr h, compare_lt_iff_lt.mpr (hab.mp h)]
  · have hle := hba.not.mp h.symm.not_lt
    have hge := hab.not.mp h.not_lt
    rw [compare_eq_iff_eq.mpr h, compare_eq_iff_eq]
    omega
  · rw [compare_gt_iff_gt.mpr h, compare_gt_iff_gt.mpr (hba.mp h)]

instance : Std.TransCmp compareOccupancy :=
  compareOccupancy_eq ▸ inferInstanceAs (Std.TransCmp (compareOn load))

/-! ### The comparison in words -/

def usedWord (m : Mentor) : Int64 :=
  .ofInt m.initial - .ofInt m.remaining

def sizeWord (m : Mentor) : Int64 :=
  max (.ofInt m.initial) 1

/-- The comparison of occupancies in words: a subtraction in 64 bits for each mentor, and two
products in 128. -/
def compareOccupancyInWords (a b : Mentor) : Ordering :=
  compare (wideProduct a.usedWord b.sizeWord).toInt (wideProduct b.usedWord a.sizeWord).toInt

theorem toInt_usedWord (m : Mentor) : m.usedWord.toInt = m.used := rfl

theorem toInt_sizeWord {m : Mentor} (h : FitsWord 64 m.initial) : m.sizeWord.toInt = m.size := by
  have hone : (1 : Int64).toInt = 1 := rfl
  have hinitial := h.toInt_ofInt
  have hword : m.sizeWord = if Int64.ofInt m.initial ≤ 1 then 1 else .ofInt m.initial := rfl
  have hle : Int64.ofInt m.initial ≤ 1 ↔ m.initial ≤ 1 := by
    rw [Int64.le_iff_toInt_le, hinitial, hone]
  by_cases hsmall : m.initial ≤ 1
  · rw [hword, if_pos (hle.mpr hsmall), hone, size, Int.max_eq_right hsmall]
  · rw [hword, if_neg (hle.not.mpr hsmall), hinitial, size,
      Int.max_eq_left (Int.le_of_not_le hsmall)]

theorem fitsWord_size {m : Mentor} (h : FitsWord 64 m.initial) : FitsWord 64 m.size :=
  toInt_sizeWord h ▸ fitsWord_toInt m.sizeWord

theorem compareOccupancyInWords_eq {a b : Mentor} (ha : FitsWord 64 a.initial)
    (hb : FitsWord 64 b.initial) : compareOccupancyInWords a b = compareOccupancy a b := by
  rw [compareOccupancyInWords, compareOccupancy, toInt_wideProduct, toInt_wideProduct,
    toInt_usedWord, toInt_usedWord, toInt_sizeWord ha, toInt_sizeWord hb]

/-- Occupancies of mentors whose seats fit in words compare as the fractions of used seats by seats
in all, at least one: no product leaves its 128 bits, so the comparison in words is the exact one.
As a comparison of fractions, it is reflexive, is swapped with the mentors and is transitive. -/
theorem compareOccupancy_exact {a b : Mentor} (ha : a.SeatsFit) (hb : b.SeatsFit) :
    (FitsWord 128 ((a.initial - a.remaining) * max b.initial 1) ∧
      FitsWord 128 ((b.initial - b.remaining) * max a.initial 1)) ∧
    compareOccupancyInWords a b = compareOccupancy a b ∧
    compareOccupancy a b =
      compare (((a.initial - a.remaining : Int) : ℚ) / (max a.initial 1 : Int))
        (((b.initial - b.remaining : Int) : ℚ) / (max b.initial 1 : Int)) ∧
    compareOccupancy a a = .eq ∧
    compareOccupancy b a = (compareOccupancy a b).swap ∧
    ∀ c : Mentor, (compareOccupancy a b).isLE → (compareOccupancy b c).isLE →
      (compareOccupancy a c).isLE := by
  refine ⟨⟨ha.difference.mul (fitsWord_size hb.initial),
    hb.difference.mul (fitsWord_size ha.initial)⟩,
    compareOccupancyInWords_eq ha.initial hb.initial, ?_, Std.ReflCmp.compare_self,
    Std.OrientedCmp.eq_swap, fun c => Std.TransCmp.isLE_trans⟩
  rw [compareOccupancy_eq, compareOn, ha.load_eq, hb.load_eq]

/-- A mentor with as many used seats as fit in a word. -/
def allUsed : Mentor where
  id := "1"
  profile := default
  remaining := 0
  initial := 2 ^ 63 - 1
  allocationsNew := 0

/-- A mentor without seats who is over-full by as many as fit in a word. -/
def overdrawn : Mentor where
  id := "2"
  profile := default
  remaining := -(2 ^ 63 - 1)
  initial := 0
  allocationsNew := 0

/-- At the ends of a word, where the greater product takes 126 bits, the full mentor comes before
the over-full one. -/
theorem compareOccupancy_exact_limits :
    (allUsed.SeatsFit ∧ overdrawn.SeatsFit) ∧
    FitsWord 128 ((overdrawn.initial - overdrawn.remaining) * max allUsed.initial 1) ∧
    compareOccupancyInWords allUsed overdrawn = .lt := by
  have hfit : allUsed.SeatsFit ∧ overdrawn.SeatsFit := by decide
  obtain ⟨⟨-, hproduct⟩, hwords, -⟩ := compareOccupancy_exact hfit.1 hfit.2
  exact ⟨hfit, hproduct, hwords.trans (by decide)⟩

end Mentor

end Mentorship.Matching
