import Mentorship.Proofs.Policy.Migration

/-! Well-formed documents. A strict check passes exactly the documents that are well formed, section
by section and across their sections, and its policy holds what they say without the blanks around
the texts. -/

namespace Mentorship.Policy

open Matching Text

/-- A document that says all a policy needs: each section is present and as it should be, and what
the sections say of the columns agrees. -/
structure Draft.IsWellFormed (d : Draft) : Prop where
  version : ∃ text v, d.version = some text ∧ Version.ofText? text = some v ∧ v.major = 1
  joinKeys : ∃ keys, d.joinKeys = some keys ∧ keys.length = 6 ∧ (∀ key ∈ keys, trim key ≠ "") ∧
    (keys.map trim).Nodup
  capacityColumn : ∃ column, d.capacityColumn = some column ∧ trim column ≠ ""
  traceStages : ∃ stages, d.traceStages = some stages ∧ stages.length = 8 ∧
    stages.map (fun s => trim s.stage) = Stage.canonical.map (·.key) ∧
    ∀ s ∈ stages, trim s.column ≠ ""
  /-- Each join key is the column of one of the first seven stages. -/
  joinKeysTraced : ∀ keys ∈ d.joinKeys, ∀ stages ∈ d.traceStages,
    ∀ key ∈ keys, ∃ s ∈ stages.take 7, trim s.column = trim key
  /-- The eighth stage has the capacity column. -/
  gateColumn : ∀ stages ∈ d.traceStages, ∀ column ∈ d.capacityColumn,
    ∀ s ∈ stages[7]?, trim s.column = trim column
  /-- Each rule names a kind with its direction and column, and none of them does so twice. -/
  rankingRules : ∃ rules column, d.rankingRules = some rules ∧ d.capacityColumn = some column ∧
    ∃ kinds : List RuleKind, List.Forall₂ (·.Names (trim column)) rules kinds ∧ kinds.Nodup ∧
      .minOccupancyRatio ∈ kinds ∧ .minAllocationsNew ∈ kinds ∧ .minMentorId ∈ kinds ∧
      kinds.getLast? = some .minMentorId
  genderCodes : ∃ codes female male, d.genderCodes = some codes ∧
    (codes.entries.map fun (key, code) => (trim key, code)).Perm [("0", female), ("1", male)] ∧
    (100 ≤ female ∧ female ≤ 999) ∧ (100 ≤ male ∧ male ≤ 999) ∧ female ≠ male
  fairness : ∀ text ∈ d.fairness, (Fairness.ofText? text).isSome

/-- A policy with the values of a document, without the blanks around its texts. -/
structure Holds (p : Policy) (d : Draft) : Prop where
  version : d.version.bind Version.ofText? = some p.version
  joinKeys : d.joinKeys.map (·.map trim) = some p.joinKeys
  capacityColumn : d.capacityColumn.map trim = some p.capacityColumn
  stages : d.traceStages.map (stageColumns Stage.canonical) = some p.stages
  ruleNames : d.rankingRules.map (·.map fun r => trim r.name) =
    some (p.rankingRules.map (·.kind.name))
  /-- The columns and directions of the rules are those of their kinds, also where the document
  leaves a column blank. -/
  rules : ∀ r ∈ p.rankingRules, r = ruleOf p.capacityColumn r.kind
  genderCodes : ∀ codes ∈ d.genderCodes,
    (codes.entries.map fun (key, code) => (trim key, code)).Perm
      [("0", p.genderCodes.female), ("1", p.genderCodes.male)]
  fairness : (d.fairness.bind Fairness.ofText?).getD .deterministic = p.fairness
  schoolWildcard : d.schoolWildcard.getD false = p.schoolWildcard
  /-- Of several columns that differ in blanks the last counts, and blank aliases are left out. -/
  columnAliases : ∀ column, p.columnAliases.find? column =
    (d.columnAliases.entries.map fun (column, names) =>
      (trim column, (names.map trim).filter (!·.isEmpty))).reverse.lookup column
  migrated : p.migrated = []

/-! ### Rules -/

theorem RuleKind.forall_isRequired_iff {kinds : List RuleKind} :
    (∀ k : RuleKind, k.isRequired = true → k ∈ kinds) ↔
      .minOccupancyRatio ∈ kinds ∧ .minAllocationsNew ∈ kinds ∧ .minMentorId ∈ kinds := by
  constructor
  · exact fun h => ⟨h _ rfl, h _ rfl, h _ rfl⟩
  · rintro ⟨hratio, hnew, hid⟩ k hk
    cases k with
    | minOccupancyRatio => exact hratio
    | maxRemainingCapacity => cases hk
    | minAllocationsNew => exact hnew
    | minMentorId => exact hid

/-- The names that the rules go by are those of their kinds. -/
theorem map_name_of_names {column : String} {drafts : List RuleDraft} {kinds : List RuleKind}
    (h : List.Forall₂ (·.Names column) drafts kinds) :
    drafts.map (fun r => trim r.name) = kinds.map (·.name) := by
  induction h with
  | nil => rfl
  | cons hk _ ih => rw [List.map_cons, List.map_cons, hk.name_eq, ih]

theorem isThreeDigits_iff {code : Nat} : isThreeDigits code = true ↔ 100 ≤ code ∧ code ≤ 999 := by
  simp [isThreeDigits]

/-! ### Well-formed documents pass -/

namespace Draft

variable {d : Draft} {p : Policy}

theorem Passes.isWellFormed (h : d.Passes .strict p) : d.IsWellFormed := by
  obtain ⟨version, hversion, hv⟩ := h.version
  obtain ⟨keys, hkeys, hk⟩ := h.joinKeys
  obtain ⟨column, hcolumn, hc⟩ := h.capacityColumn
  obtain ⟨stages, hstages, hs⟩ := h.stages
  obtain ⟨rules, hrules, hr⟩ := gives_strict_iff.mp h.rankingRules
  obtain ⟨codes, hcodes, hg⟩ := gives_strict_iff.mp h.genderCodes
  rw [gives_ok_strict_iff] at hversion hcolumn
  obtain ⟨hv, hmajor⟩ := checkVersion_eq_ok_iff.mp hv
  obtain ⟨hsix, hkne, hknodup, hkeys'⟩ := checkJoinKeys_eq_ok_iff.mp hk
  obtain ⟨hcne, hcolumn'⟩ := checkColumn_eq_ok_iff.mp hc
  obtain ⟨hsnames, hsne, htraced, hgate, -⟩ := checkStages_eq_ok_iff.mp hs
  obtain ⟨kinds, hkinds, hnodup, hrequired, hlast, -⟩ := checkRules_eq_ok_iff.mp hr
  obtain ⟨hperm, hfemale, hmale, hne⟩ := checkGenderCodes_eq_ok_iff.mp hg
  have height : stages.length = 8 := by
    simpa [Stage.canonical, Stage.eligibility] using congrArg List.length hsnames
  rw [← hkeys'] at htraced
  rw [← hcolumn', List.getLast?_eq_getElem?, height] at hgate
  rw [← hcolumn'] at hkinds
  obtain ⟨hratio, hnew, hid⟩ := RuleKind.forall_isRequired_iff.mp hrequired
  constructor
  case version => exact ⟨version, _, hversion, hv, hmajor⟩
  case joinKeys => exact ⟨keys, hkeys, hsix, hkne, hknodup⟩
  case capacityColumn => exact ⟨column, hcolumn, hcne⟩
  case traceStages => exact ⟨stages, hstages, height, hsnames, hsne⟩
  case joinKeysTraced =>
    intro keys' hkeys' stages' hstages' key hkey
    cases hkeys.symm.trans hkeys'
    cases hstages.symm.trans hstages'
    exact List.mem_map.mp (htraced (trim key) (List.mem_map_of_mem hkey))
  case gateColumn =>
    intro stages' hstages' column' hcolumn' s hs
    cases hstages.symm.trans hstages'
    cases hcolumn.symm.trans hcolumn'
    rw [Option.mem_def.mp hs] at hgate
    exact Option.some.inj hgate
  case rankingRules =>
    exact ⟨rules, column, hrules, hcolumn, kinds, hkinds, hnodup, hratio, hnew, hid, hlast⟩
  case genderCodes =>
    exact ⟨codes, _, _, hcodes, hperm, isThreeDigits_iff.mp hfemale, isThreeDigits_iff.mp hmale,
      hne⟩
  case fairness => exact (checkFairness_eq_ok_iff.mp h.fairness).1

theorem Passes.holds (h : d.Passes .strict p) : p.Holds d := by
  obtain ⟨version, hversion, hv⟩ := h.version
  obtain ⟨keys, hkeys, hk⟩ := h.joinKeys
  obtain ⟨column, hcolumn, hc⟩ := h.capacityColumn
  obtain ⟨stages, hstages, hs⟩ := h.stages
  obtain ⟨rules, hrules, hr⟩ := gives_strict_iff.mp h.rankingRules
  obtain ⟨codes, hcodes, hg⟩ := gives_strict_iff.mp h.genderCodes
  rw [gives_ok_strict_iff] at hversion hcolumn
  obtain ⟨kinds, hkinds, -, -, -, heq⟩ := checkRules_eq_ok_iff.mp hr
  constructor
  case version => rw [hversion, Option.bind_some, (checkVersion_eq_ok_iff.mp hv).1]
  case joinKeys => rw [hkeys, Option.map_some, (checkJoinKeys_eq_ok_iff.mp hk).2.2.2]
  case capacityColumn => rw [hcolumn, Option.map_some, (checkColumn_eq_ok_iff.mp hc).2]
  case stages => rw [hstages, Option.map_some, (checkStages_eq_ok_iff.mp hs).2.2.2.2]
  case ruleNames =>
    rw [hrules, Option.map_some, map_name_of_names hkinds, ← heq, List.map_map]
    rfl
  case rules =>
    intro r hr
    rw [← heq, List.mem_map] at hr
    obtain ⟨k, -, rfl⟩ := hr
    rfl
  case genderCodes =>
    intro codes' hcodes'
    cases hcodes.symm.trans hcodes'
    exact (checkGenderCodes_eq_ok_iff.mp hg).1
  case fairness => exact (checkFairness_eq_ok_iff.mp h.fairness).2
  case schoolWildcard => exact h.schoolWildcard
  case columnAliases =>
    intro column
    rw [← h.columnAliases, trimAliases, Dictionary.find?_ofList]
  case migrated =>
    have habsent := absent_of_check_strict (check_eq_ok_iff.mpr h)
    rw [← h.migrated, habsent]

/-- A well-formed document has a policy. -/
theorem IsWellFormed.exists_passes (h : d.IsWellFormed) : ∃ p, d.Passes .strict p := by
  obtain ⟨version, v, hversion, hv, hmajor⟩ := h.version
  obtain ⟨keys, hkeys, hsix, hkne, hknodup⟩ := h.joinKeys
  obtain ⟨column, hcolumn, hcne⟩ := h.capacityColumn
  obtain ⟨stages, hstages, height, hsnames, hsne⟩ := h.traceStages
  obtain ⟨rules, _, hrules, hcolumn', kinds, hkinds, hnodup, hratio, hnew, hid, hlast⟩ :=
    h.rankingRules
  obtain ⟨codes, female, male, hcodes, hperm, hfemale, hmale, hne⟩ := h.genderCodes
  cases hcolumn.symm.trans hcolumn'
  have htraced : ∀ key ∈ keys.map trim, key ∈ (stages.take 7).map fun s => trim s.column := by
    intro key hkey
    obtain ⟨text, htext, rfl⟩ := List.mem_map.mp hkey
    exact List.mem_map.mpr (h.joinKeysTraced keys hkeys stages hstages text htext)
  have hgate : stages.getLast?.map (fun s => trim s.column) = some (trim column) := by
    have hlt : 7 < stages.length := by omega
    rw [List.getLast?_eq_getElem?, height, List.getElem?_eq_getElem hlt, Option.map_some,
      h.gateColumn stages hstages column hcolumn _ (List.getElem?_eq_getElem hlt)]
  refine ⟨{
    version := v
    joinKeys := keys.map trim
    rankingRules := kinds.map (ruleOf (trim column))
    stages := stageColumns Stage.canonical stages
    genderCodes := ⟨female, male⟩
    capacityColumn := trim column
    fairness := (d.fairness.bind Fairness.ofText?).getD .deterministic
    schoolWildcard := d.schoolWildcard.getD false
    columnAliases := trimAliases d.columnAliases
    migrated := d.absent }, ?_⟩
  constructor
  case version =>
    exact ⟨version, gives_ok_strict_iff.mpr hversion, checkVersion_eq_ok_iff.mpr ⟨hv, hmajor⟩⟩
  case joinKeys =>
    exact ⟨keys, hkeys, checkJoinKeys_eq_ok_iff.mpr ⟨hsix, hkne, hknodup, rfl⟩⟩
  case capacityColumn =>
    exact ⟨column, gives_ok_strict_iff.mpr hcolumn, checkColumn_eq_ok_iff.mpr ⟨hcne, rfl⟩⟩
  case stages =>
    exact ⟨stages, hstages, checkStages_eq_ok_iff.mpr ⟨hsnames, hsne, htraced, hgate, rfl⟩⟩
  case rankingRules =>
    exact gives_strict_iff.mpr ⟨rules, hrules, checkRules_eq_ok_iff.mpr
      ⟨kinds, hkinds, hnodup, RuleKind.forall_isRequired_iff.mpr ⟨hratio, hnew, hid⟩, hlast, rfl⟩⟩
  case genderCodes =>
    exact gives_strict_iff.mpr ⟨codes, hcodes, checkGenderCodes_eq_ok_iff.mpr
      ⟨hperm, isThreeDigits_iff.mpr hfemale, isThreeDigits_iff.mpr hmale, hne⟩⟩
  case fairness => exact checkFairness_eq_ok_iff.mpr ⟨h.fairness, rfl⟩
  case schoolWildcard | columnAliases | migrated => rfl

end Draft

/-- A strict check passes exactly the well-formed documents, and the policy of each holds its
values, trimmed. -/
theorem check_strict_iff (d : Draft) :
    ((∃ p, check .strict d = .ok p) ↔ d.IsWellFormed) ∧
      ∀ p, check .strict d = .ok p → p.Holds d := by
  simp only [check_eq_ok_iff]
  exact ⟨⟨fun ⟨_, h⟩ => h.isWellFormed, fun h => h.exists_passes⟩, fun _ h => h.holds⟩

/-- The plain document with its other sections written out. -/
theorem check_strict_iff_plain :
    (Draft.plain .deterministic).withDefaults.IsWellFormed ∧
      ({ plain .deterministic with migrated := [] } : Policy).Holds
        (Draft.plain .deterministic).withDefaults := by
  have hcheck : check .strict (Draft.plain .deterministic).withDefaults =
      .ok { plain .deterministic with migrated := [] } := by
    rw [check_withDefaults, check_plain]
    rfl
  exact ⟨(check_strict_iff _).1.mp ⟨_, hcheck⟩, (check_strict_iff _).2 _ hcheck⟩

end Mentorship.Policy
