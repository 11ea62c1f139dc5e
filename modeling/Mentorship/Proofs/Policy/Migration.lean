import Mentorship.Proofs.Policy.Checked

/-! Migration. To check a document when migrating is to write out the defaults of the sections that
it lacks and to check it strictly: the defaults, which migrating takes unchecked, pass the checks of
their sections, and all other checks are the same. -/

namespace Mentorship.Policy

/-! ### Sections with a default -/

namespace Draft

def ruleDraft (r : Rule) : RuleDraft :=
  ⟨r.kind.name, r.column, r.direction.label⟩

def codesDraft (c : GenderCodes) : Dictionary String Nat :=
  .ofList (Gender.all.map fun g => (toString g.digit, c.code g))

/-- The document with the defaults of its absent sections written out. -/
def withDefaults (d : Draft) : Draft :=
  { d with
    version := some (d.version.getD defaultVersion)
    capacityColumn := some (d.capacityColumn.getD defaultCapacityColumn)
    rankingRules := some (d.rankingRules.getD (defaultRules.map ruleDraft))
    genderCodes := some (d.genderCodes.getD (codesDraft .standard)) }

end Draft

/-- The default rules pass as they are, whatever the capacity column. -/
theorem checkRules_defaultRules (column : String) :
    checkRules column (Draft.defaultRules.map Draft.ruleDraft) = .ok Draft.defaultRules := rfl

theorem checkGenderCodes_standard :
    checkGenderCodes (Draft.codesDraft .standard) = .ok .standard := rfl

section Filled
variable {α β : Type} (s : Section) (standard : α) (noted : List Section)

/-- A section that is written is neither filled in nor noted. -/
theorem need_some (mode : Mode) (a : α) :
    need mode s standard noted (some a) = pure (a, noted) := rfl

theorem need_migrate (section? : Option α) : need .migrate s standard noted section? =
    pure (section?.getD standard, noted ++ noteOn s section?) := by
  cases section? with
  | some a =>
    rw [need_some]
    simp [noteOn]
  | none => rfl

variable {standard} {check : β → Except Error α}

theorem checkSection_some (mode : Mode) (b : β) :
    checkSection mode s standard check noted (some b) = (check b).map (·, noted) := by
  rw [checkSection]
  cases check b <;> rfl

/-- To take a default unchecked is to check it where it is written out, if it passes. -/
theorem checkSection_migrate {written : β} (hwritten : check written = .ok standard)
    (section? : Option β) :
    checkSection .migrate s standard check noted section? =
      (check (section?.getD written)).map (·, noted ++ noteOn s section?) := by
  cases section? with
  | some b => simp [checkSection_some, noteOn]
  | none =>
    rw [Option.getD_none, hwritten]
    rfl

end Filled

/-! ### Absent sections -/

namespace Draft

/-- Nothing is absent exactly if all four sections are written. -/
theorem absent_eq_nil_iff {d : Draft} :
    d.absent = [] ↔ d.version.isSome ∧ d.capacityColumn.isSome ∧ d.rankingRules.isSome ∧
      d.genderCodes.isSome := by
  unfold absent noteOn
  cases d.version <;> cases d.capacityColumn <;> cases d.rankingRules <;> cases d.genderCodes <;>
    simp

/-- A document that lacks nothing is its own completion. -/
theorem withDefaults_of_absent {d : Draft} (h : d.absent = []) : d.withDefaults = d := by
  obtain ⟨hversion, hcolumn, hrules, hcodes⟩ := absent_eq_nil_iff.mp h
  obtain ⟨version, joinKeys, rankingRules, traceStages, genderCodes, capacityColumn, fairness,
    schoolWildcard, columnAliases⟩ := d
  simp only [Option.isSome_iff_exists] at hversion hcolumn hrules hcodes
  obtain ⟨_, rfl⟩ := hversion
  obtain ⟨_, rfl⟩ := hcolumn
  obtain ⟨_, rfl⟩ := hrules
  obtain ⟨_, rfl⟩ := hcodes
  rfl

end Draft

/-- What a policy notes is what its document lacks. -/
theorem migrated_of_check {mode : Mode} {d : Draft} {p : Policy} (h : check mode d = .ok p) :
    p.migrated = d.absent :=
  (check_eq_ok_iff.mp h).migrated.symm

/-- A strict check passes no document that lacks a section. -/
theorem absent_of_check_strict {d : Draft} {p : Policy} (h : check .strict d = .ok p) :
    d.absent = [] := by
  have hpasses := check_eq_ok_iff.mp h
  obtain ⟨_, hversion, -⟩ := hpasses.version
  obtain ⟨_, hcolumn, -⟩ := hpasses.capacityColumn
  obtain ⟨_, hrules, -⟩ := gives_strict_iff.mp hpasses.rankingRules
  obtain ⟨_, hcodes, -⟩ := gives_strict_iff.mp hpasses.genderCodes
  rw [Draft.absent_eq_nil_iff, gives_ok_strict_iff.mp hversion, gives_ok_strict_iff.mp hcolumn,
    hrules, hcodes]
  exact ⟨rfl, rfl, rfl, rfl⟩

/-- One note for each section that was filled in, in the order of the sections. -/
theorem warnings_of_check {mode : Mode} {d : Draft} {p : Policy} (h : check mode d = .ok p) :
    p.warnings =
      ([("version", d.version.isNone), ("capacity_column", d.capacityColumn.isNone),
          ("ranking_rules", d.rankingRules.isNone),
          ("gender_codes", d.genderCodes.isNone)].filter (·.2)).map
        fun (name, _) => s!"policy section '{name}' missing; migrated to default" := by
  rw [warnings, migrated_of_check h, Draft.absent]
  simp only [noteOn]
  cases d.version.isNone <;> cases d.capacityColumn.isNone <;> cases d.rankingRules.isNone <;>
    cases d.genderCodes.isNone <;> rfl

/-! ### The two modes -/

/-- Whether a document is filled in before its check or meanwhile, only the notes differ. -/
theorem check_withDefaults (d : Draft) :
    check .strict d.withDefaults = (check .migrate d).map fun p => { p with migrated := [] } := by
  -- both checks come down to the same steps, and only the first one's notes are empty
  simp only [check, Draft.withDefaults, need_some, need_migrate, checkSection_some,
    checkSection_migrate _ _ (checkRules_defaultRules _),
    checkSection_migrate _ _ checkGenderCodes_standard, pure_bind, bind_map, map_bind]
  rfl

/-- A document that passes strictly passes in the same way when migrating. -/
theorem check_migrate_of_strict {d : Draft} {p : Policy} (h : check .strict d = .ok p) :
    check .migrate d = .ok p := by
  have habsent := absent_of_check_strict h
  have hmap := check_withDefaults d
  rw [Draft.withDefaults_of_absent habsent, h] at hmap
  cases hmigrate : check .migrate d with
  | error e =>
    rw [hmigrate] at hmap
    cases hmap
  | ok q =>
    rw [hmigrate] at hmap
    have hq : q.migrated = [] := (migrated_of_check hmigrate).trans habsent
    have hpq : p = { q with migrated := [] } := Except.ok.inj hmap
    rw [hpq, ← hq]

/-- To migrate a document is to check it strictly with the defaults of its absent sections written
out: both fail alike, or both succeed with policies that are equal except for the notes, one on each
section that was absent. A document that passes strictly passes with the same policy and without
notes. -/
theorem check_migrate (d : Draft) :
    d.withDefaults =
        { d with
          version := some (d.version.getD "1.0.0")
          capacityColumn := some (d.capacityColumn.getD "remaining_capacity")
          rankingRules := some (d.rankingRules.getD
            [⟨"min_occupancy_ratio", "occupancy_ratio", "ascending"⟩,
              ⟨"min_allocations_new", "allocations_new", "ascending"⟩,
              ⟨"min_mentor_id", "mentor_sort_key", "ascending"⟩])
          genderCodes := some (d.genderCodes.getD (.ofList [("0", 373), ("1", 357)])) } ∧
      check .strict d.withDefaults = (check .migrate d).map (fun p => { p with migrated := [] }) ∧
      (∀ p, check .migrate d = .ok p →
        p.warnings =
          ([("version", d.version.isNone), ("capacity_column", d.capacityColumn.isNone),
              ("ranking_rules", d.rankingRules.isNone),
              ("gender_codes", d.genderCodes.isNone)].filter (·.2)).map
            fun (name, _) => s!"policy section '{name}' missing; migrated to default") ∧
      ∀ p, check .strict d = .ok p → check .migrate d = .ok p ∧ p.warnings = [] := by
  refine ⟨rfl, check_withDefaults d, fun p h => warnings_of_check h, fun p h => ?_⟩
  refine ⟨check_migrate_of_strict h, ?_⟩
  rw [warnings, migrated_of_check h, absent_of_check_strict h]
  rfl

/-- The plain document, which has none of the four sections, and its completion. -/
theorem check_migrate_plain :
    check .migrate (.plain .deterministic) = .ok (plain .deterministic) ∧
      (plain .deterministic).warnings =
        ["policy section 'version' missing; migrated to default",
          "policy section 'capacity_column' missing; migrated to default",
          "policy section 'ranking_rules' missing; migrated to default",
          "policy section 'gender_codes' missing; migrated to default"] ∧
      check .strict (Draft.plain .deterministic).withDefaults =
        .ok { plain .deterministic with migrated := [] } ∧
      check .migrate (Draft.plain .deterministic).withDefaults =
        .ok { plain .deterministic with migrated := [] } := by
  have hplain := check_plain .deterministic
  have hstrict : check .strict (Draft.plain .deterministic).withDefaults =
      .ok { plain .deterministic with migrated := [] } := by
    rw [(check_migrate (.plain .deterministic)).2.1, hplain]
    rfl
  refine ⟨hplain, ?_, hstrict, ((check_migrate _).2.2.2 _ hstrict).1⟩
  rw [(check_migrate (.plain .deterministic)).2.2.1 _ hplain]
  rfl

end Mentorship.Policy
