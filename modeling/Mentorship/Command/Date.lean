import Mentorship.Number.Numeral
import Mentorship.Text.Blank

/-! Calendar dates, and the academic year that one falls into. -/

namespace Mentorship.Command

open Text

structure Date where
  year : Int
  month : Nat
  day : Nat
  deriving DecidableEq, Repr

namespace Date

/-! ### Calendar -/

def isLeap (year : Int) : Bool :=
  year % 4 == 0 && (year % 100 != 0 || year % 400 == 0)

def daysIn (year : Int) (month : Nat) : Nat :=
  if month == 2 then if isLeap year then 29 else 28
  else if [4, 6, 9, 11].contains month then 30
  else 31

/-- Years of the calendar reach from `leastYear` to `greatestYear`. -/
def leastYear : Int := -262143

def greatestYear : Int := 262142

def isValid (d : Date) : Bool :=
  leastYear ≤ d.year && d.year ≤ greatestYear && 1 ≤ d.month && d.month ≤ 12 && 1 ≤ d.day &&
    d.day ≤ daysIn d.year d.month

/-! ### Reading -/

/-- The number that up to `most` digits at the front denote, and the text after them. -/
def takeNumber? (most : Nat) (cs : List Char) : Option (Nat × List Char) :=
  let ds := ((cs.takeWhile isDigit).take most)
  if ds.isEmpty then none else some (natOfDigits ds, cs.drop ds.length)

/-- A year: four digits at most, or any number of them after a sign. -/
def takeYear? (cs : List Char) : Option (Int × List Char) := do
  match cs with
  | '-' :: rest =>
    let (n, rest) ← takeNumber? rest.length rest
    return (-(n : Int), rest)
  | '+' :: rest =>
    let (n, rest) ← takeNumber? rest.length rest
    return ((n : Int), rest)
  | _ =>
    let (n, rest) ← takeNumber? 4 cs
    return ((n : Int), rest)

def takeDash? : List Char → Option (List Char)
  | '-' :: cs => some cs
  | _ => none

/-- Reads `year-month-day` with blanks around it. -/
def ofText? (s : String) : Option Date := do
  let (year, cs) ← takeYear? (trimChars s.toList)
  let (month, cs) ← takeNumber? 2 (trimStartChars (← takeDash? cs))
  let (day, cs) ← takeNumber? 2 (trimStartChars (← takeDash? cs))
  let d : Date := ⟨year, month, day⟩
  if cs.isEmpty && d.isValid then some d else none

/-! ### Academic years -/

/-- Whether the academic year of a calendar year has begun, on 23 September. -/
def isAfterTurn (d : Date) : Bool :=
  9 < d.month || (d.month == 9 && 23 ≤ d.day)

/-- The solar year in which the academic year began, or zero if it is no number of 16 bits. -/
def academicYear (d : Date) : Nat :=
  let solar := d.year - if d.isAfterTurn then 621 else 622
  if 0 ≤ solar && solar < 0x10000 then solar.toNat else 0

end Date

end Mentorship.Command
