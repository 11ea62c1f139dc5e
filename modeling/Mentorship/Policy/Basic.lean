import Mentorship.Dictionary
import Mentorship.Matching.Stage
import Mentorship.Policy.Gender
import Mentorship.Policy.Rule
import Mentorship.Policy.Version

/-! Policies that have passed all checks. -/

namespace Mentorship

open Matching

namespace Policy

/-- How an incomplete document is treated: refused, or filled with defaults. -/
inductive Mode where
  | strict | migrate
  deriving DecidableEq, Repr

/-- The sections that a document has to have. -/
inductive Section where
  | version | joinKeys | capacityColumn | traceStages | rankingRules | genderCodes
  deriving DecidableEq, Repr

namespace Section

def name : Section → String
  | version => "version"
  | joinKeys => "join_keys"
  | capacityColumn => "capacity_column"
  | traceStages => "trace_stages"
  | rankingRules => "ranking_rules"
  | genderCodes => "gender_codes"

/-- What is noted about a section that was filled with its default. -/
def migrationNote (s : Section) : String :=
  s!"policy section '{s.name}' missing; migrated to default"

end Section

/-- A stage and the column that holds its trait. -/
structure StageColumn where
  stage : Stage
  column : String
  deriving DecidableEq, Repr

end Policy

structure Policy where
  version : Policy.Version
  joinKeys : List String
  rankingRules : List Policy.Rule
  stages : List Policy.StageColumn
  genderCodes : Policy.GenderCodes
  capacityColumn : String
  fairness : Policy.Fairness
  schoolWildcard : Bool
  columnAliases : Dictionary String (List String)
  migrated : List Policy.Section
  deriving DecidableEq, Repr

namespace Policy

def hasRule (p : Policy) (k : RuleKind) : Bool :=
  p.rankingRules.any (·.kind == k)

def stageColumn (p : Policy) (s : Stage) : String :=
  ((p.stages.find? (·.stage == s)).map (·.column)).getD ""

/-- Further header spellings of a column. -/
def aliasesFor (p : Policy) (column : String) : List String :=
  (p.columnAliases.find? column).getD []

def warnings (p : Policy) : List String :=
  p.migrated.map (·.migrationNote)

/-- A rule's name in reasons; the last rule goes by its fairness strategy unless that is the natural
order. -/
def ruleLabel (p : Policy) (k : RuleKind) : String :=
  if k == .minMentorId && p.fairness != .deterministic then p.fairness.label else k.name

/-- The rules in the order in which they apply. -/
def rankingChain (p : Policy) : String :=
  " > ".intercalate (p.rankingRules.map fun r => p.ruleLabel r.kind)

end Policy

end Mentorship
