import Mentorship.Dictionary
import Mentorship.Matching.Trait
import Mentorship.Registration.Error
import Mentorship.Registration.NationalId
import Mentorship.Sheet.Basic

/-! Rosters: students who await a registration id, ids of the prior year, and ids issued already. -/

namespace Mentorship.Registration

open Matching Text
open Policy (Gender)

/-! ### Columns -/

inductive RosterField where
  | nationalId | gender | counter
  deriving DecidableEq, Repr

namespace RosterField

def name : RosterField → String
  | nationalId => "national_id"
  | gender => "gender"
  | counter => "counter"

def acceptedNames : RosterField → List String
  | nationalId => ["national_id", "student_id", "کد ملی", "کدملی"]
  | gender => ["gender", "sex", "جنسیت"]
  | counter => ["counter", "registration_id", "student_code", "شمارنده", "کد ثبت نام"]

/-- The first header with the label of an accepted name. -/
def locate (roster : RosterKind) (headers : List String) (f : RosterField) : Except Error Nat :=
  match headers.findIdx? fun h => f.acceptedNames.any fun name => label name == label h with
  | some position => .ok position
  | none => .error (.missingColumn roster f.name f.acceptedNames)

end RosterField

/-! ### Students -/

/-- A student of a roster, by the number of the row. -/
structure Entry where
  row : Nat
  nationalId : NationalId
  gender : Gender
  deriving DecidableEq, Repr

def gender? (cell : String) : Option Gender :=
  match Trait.ofCell cell with
  | .int n => Gender.ofDigit? n
  | _ => none

def readId (roster : RosterKind) (row : Nat) (cell : String) : Except Error NationalId :=
  match NationalId.ofText? cell with
  | some x => .ok x
  | none => .error (.invalidNationalId roster row cell)

def readGender (row : Nat) (cell : String) : Except Error Gender :=
  match gender? cell with
  | some g => .ok g
  | none => .error (.unknownGender row cell)

namespace Entry

def ofRowsFrom (idColumn genderColumn row : Nat) :
    List (List String) → Except Error (List Entry)
  | [] => .ok []
  | cells :: rows => do
    let nationalId ← readId .students row (Sheet.cellAt cells idColumn)
    let gender ← readGender row (Sheet.cellAt cells genderColumn)
    return ⟨row, nationalId, gender⟩ :: (← ofRowsFrom idColumn genderColumn (row + 1) rows)

def ofSheet (sheet : Sheet) : Except Error (List Entry) := do
  let idColumn ← RosterField.locate .students sheet.headers .nationalId
  let genderColumn ← RosterField.locate .students sheet.headers .gender
  ofRowsFrom idColumn genderColumn 1 sheet.rows

end Entry

/-! ### Ids of the prior year -/

/-- The registration ids of the prior year by national id. -/
abbrev Prior := Dictionary NationalId String

namespace Prior

/-- Adds the rows that have an id to reuse; of two rows for one student the later counts. -/
def addRows (idColumn counterColumn row : Nat) (prior : Prior) :
    List (List String) → Except Error Prior
  | [] => .ok prior
  | cells :: rows => do
    let cell := Sheet.cellAt cells idColumn
    let counter := Sheet.cellAt cells counterColumn
    if isBlankMark cell || isBlankMark counter then
      addRows idColumn counterColumn (row + 1) prior rows
    else
      let x ← readId .priorYear row cell
      addRows idColumn counterColumn (row + 1) (prior.insert x counter) rows

def ofSheet (sheet : Sheet) : Except Error Prior := do
  let idColumn ← RosterField.locate .priorYear sheet.headers .nationalId
  let counterColumn ← RosterField.locate .priorYear sheet.headers .counter
  addRows idColumn counterColumn 1 ∅ sheet.rows

end Prior

/-! ### Ids of the current year -/

/-- The registration ids of a sheet, without its blank cells. -/
def currentOfSheet (sheet : Sheet) : Except Error (List String) := do
  let column ← RosterField.locate .currentYear sheet.headers .counter
  return (sheet.rows.map (Sheet.cellAt · column)).filter (!isBlankMark ·)

end Mentorship.Registration
