import Mentorship.Text.Blank

/-! The stages that a candidate passes in turn: seven traits and the capacity gate. -/

namespace Mentorship.Matching

inductive Stage where
  | type | group | gender | graduationStatus | center | finance | school | capacityGate
  deriving DecidableEq, Repr

namespace Stage

/-- The stages that compare a trait of the student with one of the mentor. -/
def eligibility : List Stage :=
  [.type, .group, .gender, .graduationStatus, .center, .finance, .school]

/-- All stages in the order in which they apply. -/
def canonical : List Stage :=
  eligibility ++ [.capacityGate]

def key : Stage → String
  | type => "type"
  | group => "group"
  | gender => "gender"
  | graduationStatus => "graduation_status"
  | center => "center"
  | finance => "finance"
  | school => "school"
  | capacityGate => "capacity_gate"

/-- The stage of a key with blanks around it. -/
def ofKey? (text : String) : Option Stage :=
  canonical.find? (·.key == Text.trim text)

def isCapacityGate (s : Stage) : Bool :=
  s == .capacityGate

theorem ofKey?_key (s : Stage) : ofKey? s.key = some s := by
  cases s <;> rfl

end Stage

end Mentorship.Matching
