import Mentorship.FileFault
import Mentorship.Json.Reader
import Mentorship.Policy.Basic
import Mentorship.Text.Quoted

/-! Why a policy document is refused. -/

namespace Mentorship.Policy

open Matching

inductive GenderCodesFault where
  | keys (found : List String)
  | notThreeDigits (code : Nat)
  | shared (code : Nat)
  deriving DecidableEq, Repr

def GenderCodesFault.message : GenderCodesFault → String
  | keys found => "expected keys '0' and '1', found " ++ Text.quotedList found
  | notThreeDigits code => s!"code {code} is not a three-digit number"
  | shared code => s!"both genders map to {code}"

/-- Where a column name is blank. -/
inductive ColumnPlace where
  | joinKeys
  | stage (s : Stage)
  deriving DecidableEq, Repr

def ColumnPlace.name : ColumnPlace → String
  | joinKeys => Section.joinKeys.name
  | stage s => s.key

def joinKeyCount : Nat := 6

def supportedMajor : Nat := 1

inductive Error where
  | unreadable (path : String) (fault : FileFault)
  | notJson (fault : Json.Fault)
  | missingSection (s : Section)
  | invalidVersion (text : String)
  | unsupportedVersion (found : Version)
  | joinKeyCount (found : Nat)
  | duplicateJoinKey (key : String)
  | stageCount (found : Nat)
  | stageOrder (position : Nat) (expected : Stage) (found : String)
  | emptyColumn (place : ColumnPlace)
  | joinKeyNotTraced (key : String)
  | capacityColumnMismatch (stageColumn capacityColumn : String)
  | unknownRankingRule (name : String)
  | duplicateRankingRule (kind : RuleKind)
  | missingRankingRule (kind : RuleKind)
  | terminalRuleNotLast (kind : RuleKind)
  | rankingColumn (kind : RuleKind) (expected found : String)
  | rankingDirection (kind : RuleKind) (found : String)
  | genderCodes (fault : GenderCodesFault)
  | unknownFairness (name : String)
  deriving DecidableEq, Repr

namespace Error

def message : Error → String
  | unreadable path fault => s!"failed to read policy document {path}: {fault.message}"
  | notJson fault => s!"policy document is not valid JSON: {fault.message}"
  | missingSection s => s!"policy document is missing required section '{s.name}'"
  | invalidVersion text =>
    s!"policy version '{text}' is not a semantic version (MAJOR.MINOR.PATCH)"
  | unsupportedVersion found =>
    s!"policy version {found.render} is incompatible; supported major version is {supportedMajor}"
  | joinKeyCount found =>
    s!"policy must declare exactly {Policy.joinKeyCount} join keys, found {found}"
  | duplicateJoinKey key => s!"join key '{key}' is declared more than once"
  | stageCount found => s!"policy must declare exactly 8 trace stages, found {found}"
  | stageOrder position expected found =>
    s!"trace stage #{position} must be '{expected.key}', found '{found}'"
  | emptyColumn place => s!"trace stage '{place.name}' has an empty column name"
  | joinKeyNotTraced key => s!"join key '{key}' is not covered by any eligibility trace stage"
  | capacityColumnMismatch stageColumn capacityColumn =>
    s!"capacity gate column '{stageColumn}' must equal capacity_column '{capacityColumn}'"
  | unknownRankingRule name => s!"unknown ranking rule '{name}'"
  | duplicateRankingRule kind => s!"ranking rule '{kind.name}' is declared more than once"
  | missingRankingRule kind => s!"ranking rules must include '{kind.name}'"
  | terminalRuleNotLast kind =>
    s!"ranking rule '{kind.name}' must be the last rule because it never ties"
  | rankingColumn kind expected found =>
    s!"ranking rule '{kind.name}' reads column '{expected}', found '{found}'"
  | rankingDirection kind found =>
    s!"ranking rule '{kind.name}' must sort {kind.direction.label}, found '{found}'"
  | genderCodes fault => "invalid gender codes: " ++ fault.message
  | unknownFairness name => s!"unknown fairness strategy '{name}'"

end Error

end Mentorship.Policy
