import Mentorship.Number.Binary64
import Mentorship.Text.Label

/-! Traits: the cells by which students and mentors are matched, read so that spellings of one
number agree. -/

namespace Mentorship.Matching

open Number Text

inductive Trait where
  | missing
  | int (n : Int)
  | text (s : String)
  deriving DecidableEq, Repr, Inhabited

namespace Trait

/-- Integral decimals below this magnitude are integers. -/
def integerBound : Nat := 0x8000000000000000

/-- The integer that a trimmed numeral denotes: digits, or a decimal whose nearest floating-point
value is integral. -/
def integer? (s : String) : Option Int :=
  (int64? s).or <| (Binary64.ofText? s).bind fun x =>
    x.integral?.filter fun n => n.natAbs < integerBound

/-- Reads a cell: blank marks are missing, integral numerals are integers, and other text has its
blanks collapsed. -/
def ofCell (cell : String) : Trait :=
  let folded := foldDigits cell
  if isBlankMark folded then .missing
  else match integer? (trim folded) with
    | some n => .int n
    | none => .text (collapse folded)

/-- Equality of two traits that are both present. -/
def agrees : Trait → Trait → Bool
  | missing, _ => false
  | _, missing => false
  | t, u => t == u

def isMissingOrZero : Trait → Bool
  | missing => true
  | int n => n == 0
  | text _ => false

def render : Trait → String
  | missing => ""
  | int n => toString n
  | text s => s

end Trait

end Mentorship.Matching
