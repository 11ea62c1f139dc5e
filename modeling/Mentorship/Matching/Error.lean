import Mentorship.Matching.Seats

/-! What stops a whole batch; a student left without a mentor does not. -/

namespace Mentorship.Matching

inductive SheetKind where
  | students | pool
  deriving DecidableEq, Repr

def SheetKind.label : SheetKind → String
  | students => "students"
  | pool => "pool"

inductive Error where
  | missingColumn (sheet : SheetKind) (column : String) (accepted : List String)
  | blankIdentifier (sheet : SheetKind) (row : Nat)
  | duplicateMentor (id : String)
  | invalidCapacity (id : String) (cause : NotNumeric)
  | noSeatLeft (id : String) (remaining : Int)
  | unknownCandidate (index : Nat)
  deriving DecidableEq, Repr

def Error.message : Error → String
  | missingColumn sheet column accepted =>
    let names := ", ".intercalate accepted
    s!"{sheet.label} table is missing required column '{column}' (accepted: {names})"
  | blankIdentifier sheet row => s!"{sheet.label} row {row} has a blank identifier"
  | duplicateMentor id => s!"mentor '{id}' appears more than once in the pool"
  | invalidCapacity id cause => s!"mentor '{id}' has an invalid capacity: {cause.message}"
  | noSeatLeft id remaining =>
    s!"capacity underflow: mentor '{id}' has {remaining} remaining seat(s)"
  | unknownCandidate index => s!"candidate index {index} is outside the pool"

end Mentorship.Matching
