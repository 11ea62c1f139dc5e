import Mentorship.Text.Blank
import Mentorship.Text.Lowercase

/-! Ranking rules and the fairness strategy that settles the last of them. -/

namespace Mentorship.Policy

open Text

inductive Direction where
  | ascending | descending
  deriving DecidableEq, Repr

namespace Direction

def label : Direction → String
  | ascending => "ascending"
  | descending => "descending"

def ofText? (s : String) : Option Direction :=
  let word := lowerAscii (trim s)
  if word == "asc" || word == "ascending" then some ascending
  else if word == "desc" || word == "descending" then some descending
  else none

theorem ofText?_label (d : Direction) : ofText? d.label = some d := by
  cases d <;> rfl

end Direction

inductive RuleKind where
  | minOccupancyRatio | maxRemainingCapacity | minAllocationsNew | minMentorId
  deriving DecidableEq, Repr

namespace RuleKind

def all : List RuleKind :=
  [minOccupancyRatio, maxRemainingCapacity, minAllocationsNew, minMentorId]

def name : RuleKind → String
  | minOccupancyRatio => "min_occupancy_ratio"
  | maxRemainingCapacity => "max_remaining_capacity"
  | minAllocationsNew => "min_allocations_new"
  | minMentorId => "min_mentor_id"

def ofName? (s : String) : Option RuleKind :=
  all.find? (·.name == trim s)

def direction : RuleKind → Direction
  | maxRemainingCapacity => .descending
  | _ => .ascending

/-- The column that a rule of this kind reads by default. -/
def column : RuleKind → String
  | minOccupancyRatio => "occupancy_ratio"
  | maxRemainingCapacity => "remaining_capacity"
  | minAllocationsNew => "allocations_new"
  | minMentorId => "mentor_sort_key"

/-- Whether every policy has to declare the rule. -/
def isRequired (k : RuleKind) : Bool :=
  k != maxRemainingCapacity

theorem ofName?_name (k : RuleKind) : ofName? k.name = some k := by
  cases k <;> rfl

end RuleKind

structure Rule where
  kind : RuleKind
  column : String
  direction : Direction
  deriving DecidableEq, Repr

def Rule.standard (k : RuleKind) : Rule :=
  ⟨k, k.column, k.direction⟩

inductive Fairness where
  | deterministic | mentorDigest | studentDigest
  deriving DecidableEq, Repr

namespace Fairness

def label : Fairness → String
  | deterministic => "deterministic"
  | mentorDigest => "mentor_digest"
  | studentDigest => "student_digest"

def ofText? (s : String) : Option Fairness :=
  let word := lowerAscii (trim s)
  if word == "deterministic" || word == "natural" || word == "none" then some deterministic
  else if word == "mentor_digest" then some mentorDigest
  else if word == "student_digest" then some studentDigest
  else none

theorem ofText?_label (f : Fairness) : ofText? f.label = some f := by
  cases f <;> rfl

end Fairness

end Mentorship.Policy
