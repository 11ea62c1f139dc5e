import Mentorship.Number.Numeral

/-! Floating-point numbers of 64 bits as exact values, rounded to the nearest with ties to the even
significand, and their text with a fixed number of places. -/

namespace Mentorship.Number

/-- A finite value is `significand · 2 ^ exponent` with its sign; the significand has 53 bits unless
the exponent is the least one. -/
inductive Binary64 where
  | notANumber
  | infinite (negative : Bool)
  | finite (negative : Bool) (significand : Nat) (exponent : Int)
  deriving DecidableEq, Repr

/-- The integer nearest to `num / den`, and of two nearest the even one. -/
def roundQuotient (num den : Nat) : Nat :=
  let q := num / den
  let r := num % den
  if 2 * r < den then q
  else if den < 2 * r then q + 1
  else if q % 2 == 0 then q else q + 1

namespace Binary64

/-- The least significand of 53 bits. -/
def leastNormal : Nat := 1 <<< 52

def leastExponent : Int := -1074

def greatestExponent : Int := 971

/-- The numerator and denominator of `num / den / 2 ^ e`. -/
def scaled (num den : Nat) (e : Int) : Nat × Nat :=
  if 0 ≤ e then (num, den <<< e.toNat) else (num <<< (-e).toNat, den)

/-- The exponent at which `num / den` has 53 bits before the point, but at least the least one. -/
def exponentFor (num den : Nat) : Int :=
  let e := (num.log2 : Int) - den.log2 - 52
  let (n, d) := scaled num den e
  max leastExponent (if n < leastNormal * d then e - 1 else e)

/-- The value nearest to the quotient of `num` and a positive `den`. -/
def nearest (negative : Bool) (num den : Nat) : Binary64 :=
  if num == 0 then .finite negative 0 leastExponent
  else
    let e := exponentFor num den
    let (n, d) := scaled num den e
    let m := roundQuotient n d
    let (m, e) := if m == 2 * leastNormal then (leastNormal, e + 1) else (m, e)
    if greatestExponent < e then .infinite negative else .finite negative m e

def ofInt (n : Int) : Binary64 :=
  nearest (n < 0) n.natAbs 1

/-- Decimals of this many digits before the point are above every finite value. -/
def digitsAboveFinite : Int := 310

/-- Decimals below this power of ten round to zero. -/
def digitsBelowTiny : Int := -330

def ofDecimal : Decimal → Binary64
  | .notANumber => .notANumber
  | .infinite negative => .infinite negative
  | .finite negative c e =>
    if c == 0 then .finite negative 0 leastExponent
    else
      let digits : Int := (Text.digitsOfNat c).length
      if digitsAboveFinite < digits + e then .infinite negative
      else if digits + e < digitsBelowTiny then .finite negative 0 leastExponent
      else if 0 ≤ e then nearest negative (c * Nat.pow 10 e.toNat) 1
      else nearest negative c (Nat.pow 10 (-e).toNat)

def ofText? (s : String) : Option Binary64 :=
  (decimal? s).map ofDecimal

/-! ### Exact values -/

/-- The magnitude of `m · 2 ^ e` as a numerator and a denominator. -/
def magnitude (m : Nat) (e : Int) : Nat × Nat :=
  if 0 ≤ e then (m <<< e.toNat, 1) else (m, 1 <<< (-e).toNat)

/-- The integer that a value is equal to. -/
def integral? : Binary64 → Option Int
  | .finite negative m e =>
    let (n, d) := magnitude m e
    if n % d == 0 then some (signed negative (n / d)) else none
  | _ => none

/-- The integer part of a finite value, toward zero. -/
def truncated? : Binary64 → Option Int
  | .finite negative m e =>
    let (n, d) := magnitude m e
    some (signed negative (n / d))
  | _ => none

/-- The value nearest to the quotient of two finite values, the second of them positive. -/
def ratio : Binary64 → Binary64 → Binary64
  | .finite s m e, .finite _ m' e' =>
    let (n, d) := magnitude m e
    let (n', d') := magnitude m' e'
    nearest s (n * d') (d * n')
  | _, _ => .notANumber

/-- The value nearest to the product of two finite values. -/
def times : Binary64 → Binary64 → Binary64
  | .finite s m e, .finite s' m' e' =>
    let (n, d) := magnitude m e
    let (n', d') := magnitude m' e'
    nearest (s != s') (n * n') (d * d')
  | _, _ => .notANumber

def signBit : Nat := 1 <<< 63

/-- The sixty-four bits: sign, biased exponent and fraction. -/
def toBits : Binary64 → Nat
  | .notANumber => 0x7FF8000000000000
  | .infinite negative => (if negative then signBit else 0) + 0x7FF0000000000000
  | .finite negative m e =>
    (if negative then signBit else 0) +
      if m < leastNormal then m else (e + 1075).toNat * leastNormal + (m - leastNormal)

/-! ### Text -/

/-- The exact value with `places` digits after the point, a half going to the even neighbour; a
negative value keeps its sign when all its digits are zero. -/
def fixed (places : Nat) : Binary64 → String
  | .notANumber => "NaN"
  | .infinite negative => if negative then "-inf" else "inf"
  | .finite negative m e =>
    let (n, d) := magnitude m e
    let unit := Nat.pow 10 places
    let units := roundQuotient (n * unit) d
    (if negative then "-" else "") ++ toString (units / unit) ++ "." ++
      String.ofList (Text.paddedDigits places (units % unit))

end Binary64

end Mentorship.Number
