import Mentorship.Proofs.Policy.Sections

/-! What every checked policy has. Whether its rules were written out or filled in, the last of them
settles ties by mentor. -/

namespace Mentorship.Policy

open Matching

variable {mode : Mode}

/-- Checked rules do not repeat, none that is required is missing, and the last one settles ties. -/
theorem of_checkRules {column : String} {drafts : List RuleDraft} {rules : List Rule}
    (h : checkRules column drafts = .ok rules) :
    (rules.map (·.kind)).Nodup ∧
      (∀ k : RuleKind, k.isRequired = true → k ∈ rules.map (·.kind)) ∧
      (rules.map (·.kind)).getLast? = some .minMentorId := by
  obtain ⟨kinds, -, hnodup, hrequired, hlast, rfl⟩ := checkRules_eq_ok_iff.mp h
  rw [map_kind_ruleOf]
  exact ⟨hnodup, hrequired, hlast⟩

theorem getLast?_of_gives {column : String} {section? : Option (List RuleDraft)}
    {rules : List Rule} (h : Gives mode Draft.defaultRules (checkRules column) section? rules) :
    (rules.map (·.kind)).getLast? = some .minMentorId := by
  cases section? with
  | some drafts => exact (of_checkRules h).2.2
  | none =>
    obtain ⟨-, rfl⟩ := h
    rfl

/-- The last rule of a checked policy settles ties. -/
theorem exists_minMentorId_of_check {d : Draft} {p : Policy} (h : check mode d = .ok p) :
    ∃ r ∈ p.rankingRules, r.kind = .minMentorId := by
  have hlast := getLast?_of_gives (check_eq_ok_iff.mp h).rankingRules
  exact List.mem_map.mp (List.mem_of_getLast? hlast)

/-! ### The first rule -/

/-- The rule that settles ties comes last and not first: it stands there once, and other rules are
required. -/
theorem head_of_gives {column : String} {section? : Option (List RuleDraft)}
    {rules : List Rule} (h : Gives mode Draft.defaultRules (checkRules column) section? rules) :
    ∃ r rest, rules = r :: rest ∧ r.kind ≠ .minMentorId := by
  cases section? with
  | none =>
    obtain ⟨-, rfl⟩ := h
    exact ⟨_, _, rfl, by decide⟩
  | some drafts =>
    obtain ⟨hnodup, hrequired, hlast⟩ := of_checkRules h
    have hratio := hrequired .minOccupancyRatio rfl
    cases rules with
    | nil => simp at hratio
    | cons r rest =>
      refine ⟨r, rest, rfl, fun hr => ?_⟩
      rw [List.map_cons, hr] at hlast hratio hnodup
      cases rest with
      | nil => simp at hratio
      | cons r' rest =>
        rw [List.map_cons, List.getLast?_cons_cons] at hlast
        exact (List.nodup_cons.mp hnodup).1 (List.mem_of_getLast? hlast)

/-- The first rule of a checked policy does not settle ties. -/
theorem head_of_check {d : Draft} {p : Policy} (h : check mode d = .ok p) :
    ∃ r rest, p.rankingRules = r :: rest ∧ r.kind ≠ .minMentorId :=
  head_of_gives (check_eq_ok_iff.mp h).rankingRules

/-! ### A plain policy -/

/-- A document with nothing but the stages, under their own names, and a strategy. -/
def Draft.plain (f : Fairness) : Draft where
  joinKeys := some ["type", "group", "gender", "graduation_status", "center", "finance"]
  traceStages := some <| Stage.eligibility.map (fun s => ⟨s.key, s.key⟩) ++
    [⟨Stage.capacityGate.key, Draft.defaultCapacityColumn⟩]
  fairness := some f.label

/-- What the plain document comes to when its other sections are filled in. -/
def plain (f : Fairness) : Policy where
  version := ⟨1, 0, 0, none⟩
  joinKeys := ["type", "group", "gender", "graduation_status", "center", "finance"]
  rankingRules := Draft.defaultRules
  stages := Stage.eligibility.map (fun s => ⟨s, s.key⟩) ++
    [⟨.capacityGate, Draft.defaultCapacityColumn⟩]
  genderCodes := .standard
  capacityColumn := Draft.defaultCapacityColumn
  fairness := f
  schoolWildcard := false
  columnAliases := ∅
  migrated := [.version, .capacityColumn, .rankingRules, .genderCodes]

theorem check_plain (f : Fairness) : check .migrate (.plain f) = .ok (plain f) := by
  cases f <;> rfl

end Mentorship.Policy
