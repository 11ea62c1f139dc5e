import Mentorship.Text.Digits

/-! Numerals: signed integers within bounds, and decimal fractions with an exponent. -/

namespace Mentorship.Number

open Text

/-! ### Integers -/

/-- An optional sign and the text after it. -/
def splitSign : List Char → Bool × List Char
  | '-' :: cs => (true, cs)
  | '+' :: cs => (false, cs)
  | cs => (false, cs)

def signed (negative : Bool) (n : Nat) : Int :=
  if negative then -(n : Int) else n

/-- Digits after an optional sign. -/
def integer? (s : String) : Option Int :=
  let (negative, ds) := splitSign s.toList
  if ds.isEmpty || !ds.all isDigit then none else some (signed negative (natOfDigits ds))

/-- An integer from `lo` to `hi`. -/
def integerWithin? (lo hi : Int) (s : String) : Option Int :=
  (integer? s).filter fun n => lo ≤ n && n ≤ hi

def int64Min : Int := -0x8000000000000000

def int64Max : Int := 0x7FFFFFFFFFFFFFFF

def int64? (s : String) : Option Int :=
  integerWithin? int64Min int64Max s

/-- The least natural number that does not fit in 64 bits. -/
def wordLimit : Nat := 0x10000000000000000

/-- A natural number up to `hi`: digits after an optional plus sign. -/
def naturalUpTo? (hi : Nat) (s : String) : Option Nat :=
  let ds := match s.toList with
    | '+' :: cs => cs
    | cs => cs
  if ds.isEmpty || !ds.all isDigit then none else some (natOfDigits ds) |>.filter (· ≤ hi)

/-! ### Decimals -/

/-- What a numeral stands for: `coefficient · 10 ^ exponent` with a sign, or no finite number. -/
inductive Decimal where
  | notANumber
  | infinite (negative : Bool)
  | finite (negative : Bool) (coefficient : Nat) (exponent : Int)
  deriving DecidableEq, Repr

/-- The exponent part at the end of a numeral: absent, or `e` with an optional sign and digits. -/
def exponentPart? : List Char → Option Int
  | [] => some 0
  | e :: cs =>
    if e == 'e' || e == 'E' then
      let (negative, ds) := splitSign cs
      if ds.isEmpty || !ds.all isDigit then none else some (signed negative (natOfDigits ds))
    else none

/-- Digits, an optional point with digits, at least one digit in all, and an exponent part. -/
def fraction? (negative : Bool) (cs : List Char) : Option Decimal :=
  let whole := cs.takeWhile isDigit
  let rest := cs.dropWhile isDigit
  let (part, tail) := match rest with
    | '.' :: ds => (ds.takeWhile isDigit, ds.dropWhile isDigit)
    | _ => ([], rest)
  if whole.isEmpty && part.isEmpty then none
  else (exponentPart? tail).map fun e =>
    .finite negative (natOfDigits (whole ++ part)) (e - part.length)

def decimal? (s : String) : Option Decimal :=
  let (negative, cs) := splitSign s.toList
  match fraction? negative cs with
  | some d => some d
  | none =>
    let word := String.ofList (cs.map Char.toLower)
    if word == "inf" || word == "infinity" then some (.infinite negative)
    else if word == "nan" then some .notANumber
    else none

end Mentorship.Number
