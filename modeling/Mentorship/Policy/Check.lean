import Mentorship.Policy.DraftReader
import Mentorship.Policy.Error

/-! The checks that turn a document into a policy, section by section. -/

namespace Mentorship.Policy

open Matching Text

/-- The value of a section, or its default where the mode allows one; a section that is filled in is
noted after those noted before it. -/
def need {α : Type} (mode : Mode) (s : Section) (standard : α) (noted : List Section) :
    Option α → Except Error (α × List Section)
  | some a => .ok (a, noted)
  | none =>
    if mode == .migrate then .ok (standard, noted ++ [s]) else .error (.missingSection s)

/-- What the check of a section makes of it; its default is taken unchecked. -/
def checkSection {α β : Type} (mode : Mode) (s : Section) (standard : α)
    (check : β → Except Error α) (noted : List Section) :
    Option β → Except Error (α × List Section)
  | some b => return (← check b, noted)
  | none => need mode s standard noted none

/-- The value of a section without a default. -/
def require {α : Type} (s : Section) : Option α → Except Error α
  | some a => .ok a
  | none => .error (.missingSection s)

/-! ### Version and columns -/

def checkVersion (text : String) : Except Error Version :=
  match Version.ofText? text with
  | none => .error (.invalidVersion text)
  | some v => if v.major == supportedMajor then .ok v else .error (.unsupportedVersion v)

/-- A trimmed column name that is not empty. -/
def checkColumn (place : ColumnPlace) (text : String) : Except Error String :=
  let column := trim text
  if column.isEmpty then .error (.emptyColumn place) else .ok column

/-- Trimmed keys, none of them empty or like one before it. -/
def checkKeysAfter (seen : List String) : List String → Except Error (List String)
  | [] => .ok []
  | text :: texts => do
    let key ← checkColumn .joinKeys text
    if seen.contains key then .error (.duplicateJoinKey key)
    else return key :: (← checkKeysAfter (key :: seen) texts)

def checkJoinKeys (texts : List String) : Except Error (List String) :=
  if texts.length != joinKeyCount then .error (.joinKeyCount texts.length)
  else checkKeysAfter [] texts

/-! ### Stages -/

/-- The drafts from `position` on, which have to be those of the expected stages. -/
def checkStagesFrom (position : Nat) :
    List Stage → List StageDraft → Except Error (List StageColumn)
  | expected :: stages, draft :: drafts => do
    if Stage.ofKey? draft.stage != some expected then
      .error (.stageOrder position expected draft.stage)
    else
      let column ← checkColumn (.stage expected) draft.column
      return ⟨expected, column⟩ :: (← checkStagesFrom (position + 1) stages drafts)
  | _, _ => .ok []

def checkStages (joinKeys : List String) (capacityColumn : String) (drafts : List StageDraft) :
    Except Error (List StageColumn) := do
  if drafts.length != Stage.canonical.length then .error (.stageCount drafts.length)
  else
    let stages ← checkStagesFrom 1 Stage.canonical drafts
    let traced := (stages.filter (!·.stage.isCapacityGate)).map (·.column)
    match joinKeys.find? (!traced.contains ·) with
    | some key => .error (.joinKeyNotTraced key)
    | none =>
      let gate := (stages.getLast?.map (·.column)).getD ""
      if gate != capacityColumn then .error (.capacityColumnMismatch gate capacityColumn)
      else return stages

/-! ### Ranking rules -/

/-- The column that a rule has to name if it names one. -/
def ruleColumn (capacityColumn : String) (k : RuleKind) : String :=
  if k == .maxRemainingCapacity then capacityColumn else k.column

def checkRule (seen : List RuleKind) (capacityColumn : String) (draft : RuleDraft) :
    Except Error Rule :=
  match RuleKind.ofName? draft.name with
  | none => .error (.unknownRankingRule draft.name)
  | some kind =>
    let expected := ruleColumn capacityColumn kind
    let column := trim draft.column
    if seen.contains kind then .error (.duplicateRankingRule kind)
    else if Direction.ofText? draft.direction != some kind.direction then
      .error (.rankingDirection kind draft.direction)
    else if !column.isEmpty && column != expected then
      .error (.rankingColumn kind expected column)
    else .ok ⟨kind, expected, kind.direction⟩

def checkRulesAfter (seen : List RuleKind) (capacityColumn : String) :
    List RuleDraft → Except Error (List Rule)
  | [] => .ok []
  | draft :: drafts => do
    let rule ← checkRule seen capacityColumn draft
    return rule :: (← checkRulesAfter (rule.kind :: seen) capacityColumn drafts)

def checkRules (capacityColumn : String) (drafts : List RuleDraft) : Except Error (List Rule) := do
  let rules ← checkRulesAfter [] capacityColumn drafts
  let kinds := rules.map (·.kind)
  match RuleKind.all.find? fun k => k.isRequired && !kinds.contains k with
  | some kind => .error (.missingRankingRule kind)
  | none =>
    if kinds.getLast? != some .minMentorId then .error (.terminalRuleNotLast .minMentorId)
    else return rules

/-! ### Gender codes -/

def isThreeDigits (code : Nat) : Bool :=
  100 ≤ code && code ≤ 999

def checkGenderCodes (codes : Dictionary String Nat) : Except Error GenderCodes :=
  let entries := codes.entries.map fun (key, code) => (trim key, code)
  let keys := entries.map (·.1)
  match entries.length == 2, entries.lookup "0", entries.lookup "1" with
  | true, some female, some male =>
    if !isThreeDigits female then .error (.genderCodes (.notThreeDigits female))
    else if !isThreeDigits male then .error (.genderCodes (.notThreeDigits male))
    else if female == male then .error (.genderCodes (.shared female))
    else .ok ⟨female, male⟩
  | _, _, _ => .error (.genderCodes (.keys keys))

/-! ### The whole document -/

def checkFairness : Option String → Except Error Fairness
  | none => .ok .deterministic
  | some text =>
    match Fairness.ofText? text with
    | some f => .ok f
    | none => .error (.unknownFairness text)

/-- Trimmed columns with their trimmed aliases, blank ones left out. -/
def trimAliases (aliases : Dictionary String (List String)) : Dictionary String (List String) :=
  .ofList <| aliases.entries.map fun (column, names) =>
    (trim column, (names.map trim).filter (!·.isEmpty))

def check (mode : Mode) (d : Draft) : Except Error Policy := do
  let (version, noted) ← need mode .version Draft.defaultVersion [] d.version
  let version ← checkVersion version
  let joinKeys ← checkJoinKeys (← require .joinKeys d.joinKeys)
  let (column, noted) ←
    need mode .capacityColumn Draft.defaultCapacityColumn noted d.capacityColumn
  let capacityColumn ← checkColumn (.stage .capacityGate) column
  let stages ← checkStages joinKeys capacityColumn (← require .traceStages d.traceStages)
  let (rankingRules, noted) ← checkSection mode .rankingRules Draft.defaultRules
    (checkRules capacityColumn) noted d.rankingRules
  let (genderCodes, noted) ← checkSection mode .genderCodes .standard checkGenderCodes noted
    d.genderCodes
  let fairness ← checkFairness d.fairness
  return {
    version, joinKeys, rankingRules, stages, genderCodes, capacityColumn, fairness
    schoolWildcard := d.schoolWildcard.getD false
    columnAliases := trimAliases d.columnAliases
    migrated := noted }

/-- The policy of a document's text. -/
def ofText (mode : Mode) (text : String) : Except Error Policy :=
  match Draft.ofText text with
  | .error fault => .error (.notJson fault)
  | .ok draft => check mode draft

end Mentorship.Policy
