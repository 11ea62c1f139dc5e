import Mentorship.Text.Blank
import Mentorship.Text.Digits

/-! Registration ids: two digits for the academic year, three for the gender and four for the
sequence. -/

namespace Mentorship.Registration

open Text

/-! ### Years -/

namespace Year

/-- The academic year that registration ids write as `00`. -/
def base : Nat := 1350

/-- The two-digit form of an academic year, if it has one. -/
def offset? (year : Nat) : Option Nat :=
  if base ≤ year && year ≤ base + 99 then some (year - base) else none

end Year

/-! ### Ids -/

structure Id where
  year : Nat
  gender : Nat
  sequence : Nat
  deriving DecidableEq, Repr

namespace Id

def greatestSequence : Nat := 9999

def render (x : Id) : String :=
  String.ofList (paddedDigits 2 x.year ++ paddedDigits 3 x.gender ++ paddedDigits 4 x.sequence)

/-- Reads nine digits with blanks around them. -/
def ofText? (s : String) : Option Id :=
  let ds := (foldDigits (trim s)).toList
  if ds.length == 9 && ds.all isDigit then
    some ⟨natOfDigits (ds.take 2), natOfDigits ((ds.drop 2).take 3), natOfDigits (ds.drop 5)⟩
  else none

/-- Whether an id belongs to a year and a gender code. -/
def belongsTo (x : Id) (year gender : Nat) : Bool :=
  x.year == year && x.gender == gender

end Id

end Mentorship.Registration
