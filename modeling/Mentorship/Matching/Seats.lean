import Mentorship.Number.Binary64
import Mentorship.Text.Label

/-! Seat counts read from cells. -/

namespace Mentorship.Matching

open Number Text

/-- A cell that holds neither a number nor a blank mark. -/
structure NotNumeric where
  cell : String
  deriving DecidableEq, Repr

def NotNumeric.message (e : NotNumeric) : String :=
  s!"capacity value '{e.cell}' is not numeric"

namespace Seats

/-- The nearest seat count that fits in 64 bits. -/
def clamp (n : Int) : Int :=
  max int64Min (min int64Max n)

def ofBinary64? : Binary64 → Option Int
  | .notANumber => some 0
  | x => x.truncated?.map clamp

/-- Blank marks count as no seats, and decimals lose their fraction. -/
def ofCell (cell : String) : Except NotNumeric Int :=
  let folded := foldDigits cell
  if isBlankMark folded then .ok 0
  else
    let numeral := trim folded
    match (int64? numeral).or ((Binary64.ofText? numeral).bind ofBinary64?) with
    | some n => .ok n
    | none => .error ⟨trim cell⟩

end Seats

end Mentorship.Matching
