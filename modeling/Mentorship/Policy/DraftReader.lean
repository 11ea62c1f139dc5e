import Mentorship.Json.Reader
import Mentorship.Policy.Draft
import Mentorship.Text.ByteOrderMark

/-! Policy documents read from JSON text. -/

namespace Mentorship.Policy

open Json Json.Reader

/-! ### Rules and stages -/

namespace RuleDraft

structure Partial where
  name : Option String := none
  column : Option String := none
  direction : Option String := none

def fields : List (Reader.Field Partial) := [
  ⟨"name", fun r => return { r with name := some (← string) }⟩,
  ⟨"column", fun r => return { r with column := some (← string) }⟩,
  ⟨"direction", fun r => return { r with direction := some (← string) }⟩]

def complete? (r : Partial) : Option RuleDraft :=
  return ⟨← r.name, ← r.column, ← r.direction⟩

def read : Reader RuleDraft :=
  record fields ({} : Partial) complete?

end RuleDraft

namespace StageDraft

structure Partial where
  stage : Option String := none
  column : Option String := none

def fields : List (Reader.Field Partial) := [
  ⟨"stage", fun s => return { s with stage := some (← string) }⟩,
  ⟨"column", fun s => return { s with column := some (← string) }⟩]

def complete? (s : Partial) : Option StageDraft :=
  return ⟨← s.stage, ← s.column⟩

def read : Reader StageDraft :=
  record fields ({} : Partial) complete?

end StageDraft

/-! ### Documents -/

namespace Draft

/-- Gender codes are numbers of 16 bits. -/
def codeLimit : Nat := 0x10000

/-- A dictionary; of several members with one key the last counts. -/
def dictionary {α : Type} (value : Reader α) : Reader (Dictionary String α) :=
  Reader.map (fun key d => return d.insert key (← value)) ∅

def fields : List (Reader.Field Draft) := [
  ⟨"version", fun d => return { d with version := ← optional string }⟩,
  ⟨"join_keys", fun d => return { d with joinKeys := ← optional (list string) }⟩,
  ⟨"ranking_rules", fun d =>
    return { d with rankingRules := ← optional (list RuleDraft.read) }⟩,
  ⟨"trace_stages", fun d =>
    return { d with traceStages := ← optional (list StageDraft.read) }⟩,
  ⟨"gender_codes", fun d =>
    return { d with genderCodes := ← optional (dictionary (naturalBelow codeLimit)) }⟩,
  ⟨"capacity_column", fun d => return { d with capacityColumn := ← optional string }⟩,
  ⟨"fairness_strategy", fun d => return { d with fairness := ← optional string }⟩,
  ⟨"school_wildcard", fun d => return { d with schoolWildcard := ← optional bool }⟩,
  ⟨"column_aliases", fun d =>
    return { d with columnAliases := ← dictionary (list string) }⟩]

def read : Reader Draft :=
  record fields ({} : Draft) some

/-- Reads a document, with any byte order marks in front of it. -/
def ofText (text : String) : Except Fault Draft :=
  document read (Text.dropByteOrderMarks text)

end Draft

end Mentorship.Policy
