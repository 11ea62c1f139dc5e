import Mentorship.Policy.Basic

/-! Policy documents as written, before any check. -/

namespace Mentorship.Policy

open Matching

structure RuleDraft where
  name : String
  column : String
  direction : String
  deriving DecidableEq, Repr

structure StageDraft where
  stage : String
  column : String
  deriving DecidableEq, Repr

structure Draft where
  version : Option String := none
  joinKeys : Option (List String) := none
  rankingRules : Option (List RuleDraft) := none
  traceStages : Option (List StageDraft) := none
  genderCodes : Option (Dictionary String Nat) := none
  capacityColumn : Option String := none
  fairness : Option String := none
  schoolWildcard : Option Bool := none
  columnAliases : Dictionary String (List String) := ∅
  deriving DecidableEq, Repr

namespace Draft

/-! ### Defaults -/

def defaultVersion : String := "1.0.0"

def defaultCapacityColumn : String := "remaining_capacity"

def defaultRules : List Rule :=
  [.standard .minOccupancyRatio, .standard .minAllocationsNew, .standard .minMentorId]

end Draft

end Mentorship.Policy
