import Mentorship.Policy.Gender

/-! What stops an assignment of registration ids. -/

namespace Mentorship.Registration

open Policy (Gender)

inductive RosterKind where
  | students | priorYear | currentYear
  deriving DecidableEq, Repr

def RosterKind.label : RosterKind → String
  | students => "students"
  | priorYear => "prior-year"
  | currentYear => "current-year"

/-- A row and the registration id that someone else holds. -/
structure Clash where
  row : Nat
  id : String
  deriving DecidableEq, Repr

def Clash.text (c : Clash) : String :=
  s!"row {c.row}: {c.id}"

inductive Error where
  | invalidYear (year : Nat)
  | sequenceOverflow (gender : Gender)
  | sharedIds (clashes : List Clash)
  | invalidNationalId (roster : RosterKind) (row : Nat) (value : String)
  | unknownGender (row : Nat) (value : String)
  | missingColumn (roster : RosterKind) (column : String) (accepted : List String)
  deriving DecidableEq, Repr

def Error.message : Error → String
  | invalidYear year => s!"academic year {year} is outside 1350..=1449"
  | sequenceOverflow gender =>
    s!"sequence overflow: no free registration sequence left for {gender.label} students"
  | sharedIds clashes =>
    "duplicate registration ids assigned: " ++ ", ".intercalate (clashes.map (·.text))
  | invalidNationalId roster row value =>
    s!"{roster.label} roster row {row} has an invalid national id '{value}'"
  | unknownGender row value =>
    s!"students roster row {row} has an unknown gender '{value}' (expected 0 or 1)"
  | missingColumn roster column accepted =>
    let names := ", ".intercalate accepted
    s!"{roster.label} roster is missing required column '{column}' (accepted: {names})"

end Mentorship.Registration
