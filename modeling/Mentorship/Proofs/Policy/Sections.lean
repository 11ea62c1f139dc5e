import Mathlib.Data.List.Forall2
import Mathlib.Data.List.Nodup
import Mathlib.Data.List.Permutation
import Mentorship.Policy.Check
import Mentorship.Proofs.Sequence

/-! The sections of a policy document one by one. The check of a section passes it exactly if it is
as it should be, whatever blanks stand around its texts, and returns what the section says without
these blanks. -/

namespace Mentorship

open Matching Text

theorem Matching.Stage.ofKey?_eq_some_iff {text : String} {s : Stage} :
    Stage.ofKey? text = some s ↔ trim text = s.key := by
  constructor
  · intro h
    have hfound := List.find?_some h
    exact (beq_iff_eq.mp hfound).symm
  · intro h
    rw [Stage.ofKey?, h]
    cases s <;> rfl

theorem Policy.RuleKind.ofName?_eq_some_iff {text : String} {k : Policy.RuleKind} :
    Policy.RuleKind.ofName? text = some k ↔ trim text = k.name := by
  constructor
  · intro h
    rw [ofName?] at h
    have hfound := List.find?_some h
    exact (beq_iff_eq.mp hfound).symm
  · intro h
    rw [RuleKind.ofName?, h]
    cases k <;> rfl

namespace Policy

/-! ### Sections that may be filled in -/

section Given
variable {α β : Type} {mode : Mode} {s : Section} {standard a : α} {check : β → Except Error α}
variable {noted noted' : List Section} {section? : Option β}

/-- Whether a section comes to a value: the one that its check makes of it if it is written, and the
default of a migration if it is not. -/
def Gives (mode : Mode) (standard : α) (check : β → Except Error α) (section? : Option β) (a : α) :
    Prop :=
  match section? with
  | some b => check b = .ok a
  | none => mode = .migrate ∧ standard = a

/-- The note on a section that is absent. -/
def noteOn (s : Section) (section? : Option β) : List Section :=
  if section?.isNone then [s] else []

theorem need_eq_ok_iff {section? : Option α} :
    need mode s standard noted section? = .ok (a, noted') ↔
      Gives mode standard .ok section? a ∧ noted ++ noteOn s section? = noted' := by
  cases section? with
  | some b => simp [need, Gives, noteOn]
  | none => cases mode <;> simp [need, Gives, noteOn]

theorem checkSection_eq_ok_iff :
    checkSection mode s standard check noted section? = .ok (a, noted') ↔
      Gives mode standard check section? a ∧ noted ++ noteOn s section? = noted' := by
  cases section? with
  | some b => simp [checkSection, Gives, noteOn, map_eq_ok_iff]
  | none => cases mode <;> simp [checkSection, need, Gives, noteOn]

/-- A strict check has to find a section. -/
theorem gives_strict_iff :
    Gives .strict standard check section? a ↔ ∃ b, section? = some b ∧ check b = .ok a := by
  cases section? <;> simp [Gives]

theorem gives_ok_strict_iff {section? : Option α} :
    Gives .strict standard .ok section? a ↔ section? = some a := by
  simp [gives_strict_iff]

theorem require_eq_ok_iff {section? : Option α} :
    require s section? = .ok a ↔ section? = some a := by
  cases section? <;> simp [require]

end Given

/-! ### Version and columns -/

theorem checkVersion_eq_ok_iff {text : String} {v : Version} :
    checkVersion text = .ok v ↔ Version.ofText? text = some v ∧ v.major = supportedMajor := by
  unfold checkVersion
  cases Version.ofText? text with
  | none => simp
  | some w =>
    by_cases hw : w.major = supportedMajor
    · simp only [hw, beq_self_eq_true, if_true, Except.ok.injEq, Option.some.injEq]
      constructor
      · rintro rfl
        exact ⟨rfl, hw⟩
      · exact And.left
    · simp only [beq_false_of_ne hw, Option.some.injEq]
      constructor
      · intro h
        cases h
      · rintro ⟨rfl, hv⟩
        exact absurd hv hw

theorem checkColumn_eq_ok_iff {place : ColumnPlace} {text column : String} :
    checkColumn place text = .ok column ↔ trim text ≠ "" ∧ trim text = column := by
  simp only [checkColumn, String.isEmpty_iff]
  by_cases h : trim text = ""
  · simp [h]
  · simp [h]

/-! ### Join keys -/

/-- A list without repetitions and without anything seen before, from its first member on. -/
theorem nodup_and_fresh_cons {α : Type} {x : α} {xs seen : List α} :
    ((x :: xs).Nodup ∧ ∀ y ∈ x :: xs, y ∉ seen) ↔
      x ∉ seen ∧ xs.Nodup ∧ ∀ y ∈ xs, y ∉ x :: seen := by
  rw [List.nodup_cons, List.forall_mem_cons]
  constructor
  · rintro ⟨⟨hx, hxs⟩, hfresh, hrest⟩
    refine ⟨hfresh, hxs, fun y hy => ?_⟩
    rw [List.mem_cons, not_or]
    exact ⟨fun h => hx (h ▸ hy), hrest y hy⟩
  · rintro ⟨hfresh, hxs, hrest⟩
    exact ⟨⟨fun hx => hrest x hx List.mem_cons_self, hxs⟩, hfresh,
      fun y hy h => hrest y hy (List.mem_cons_of_mem _ h)⟩

theorem checkKeysAfter_cons_eq_ok_iff {seen texts keys : List String} {text : String} :
    checkKeysAfter seen (text :: texts) = .ok keys ↔
      trim text ≠ "" ∧ trim text ∉ seen ∧
        ∃ rest, checkKeysAfter (trim text :: seen) texts = .ok rest ∧ trim text :: rest = keys := by
  simp only [checkKeysAfter, bind_eq_ok_iff, checkColumn_eq_ok_iff, and_assoc, exists_and_left,
    exists_eq_left']
  by_cases hseen : trim text ∈ seen
  · simp [hseen]
  · simp [hseen, map_eq_ok_iff]

theorem checkKeysAfter_eq_ok_iff {seen texts keys : List String} :
    checkKeysAfter seen texts = .ok keys ↔
      (∀ text ∈ texts, trim text ≠ "") ∧ texts.map trim = keys ∧ keys.Nodup ∧
        ∀ key ∈ keys, key ∉ seen := by
  induction texts generalizing seen keys with
  | nil =>
    simp only [checkKeysAfter, Except.ok.injEq, List.map_nil]
    constructor
    · rintro rfl
      simp
    · exact fun h => h.2.1
  | cons text texts ih =>
    simp only [checkKeysAfter_cons_eq_ok_iff, ih, List.forall_mem_cons (a := text)]
    constructor
    · rintro ⟨hne, hseen, _, ⟨hnes, rfl, hrest⟩, rfl⟩
      exact ⟨⟨hne, hnes⟩, rfl, nodup_and_fresh_cons.mpr ⟨hseen, hrest⟩⟩
    · rintro ⟨⟨hne, hnes⟩, rfl, hfresh⟩
      obtain ⟨hseen, hrest⟩ := nodup_and_fresh_cons.mp hfresh
      exact ⟨hne, hseen, _, ⟨hnes, rfl, hrest⟩, rfl⟩

theorem checkJoinKeys_eq_ok_iff {texts keys : List String} :
    checkJoinKeys texts = .ok keys ↔
      texts.length = joinKeyCount ∧ (∀ text ∈ texts, trim text ≠ "") ∧ (texts.map trim).Nodup ∧
      texts.map trim = keys := by
  unfold checkJoinKeys
  by_cases hlength : texts.length = joinKeyCount
  · simp only [hlength, bne_self_eq_false, Bool.false_eq_true, if_false, checkKeysAfter_eq_ok_iff]
    constructor
    · rintro ⟨hne, rfl, hnodup, -⟩
      exact ⟨trivial, hne, hnodup, rfl⟩
    · rintro ⟨-, hne, hnodup, rfl⟩
      exact ⟨hne, rfl, hnodup, by simp⟩
  · simp [hlength]

/-! ### Stages -/

/-- The stages expected, with the columns of the drafts in their order, trimmed. -/
def stageColumns (expected : List Stage) (drafts : List StageDraft) : List StageColumn :=
  expected.zipWith (fun stage s => ⟨stage, trim s.column⟩) drafts

theorem checkStagesFrom_eq_ok_iff {position : Nat} {expected : List Stage}
    {drafts : List StageDraft} (hlength : drafts.length = expected.length)
    {stages : List StageColumn} :
    checkStagesFrom position expected drafts = .ok stages ↔
      drafts.map (fun s => trim s.stage) = expected.map (·.key) ∧
        (∀ s ∈ drafts, trim s.column ≠ "") ∧
        stageColumns expected drafts = stages := by
  induction expected generalizing position drafts stages with
  | nil =>
    rw [List.length_nil, List.length_eq_zero_iff] at hlength
    simp [hlength, checkStagesFrom, stageColumns]
  | cons stage expected ih =>
    cases drafts with
    | nil => cases hlength
    | cons draft drafts =>
      have hrest : drafts.length = expected.length := by simpa using hlength
      by_cases hstage : trim draft.stage = stage.key
      · have hkey := Stage.ofKey?_eq_some_iff.mpr hstage
        simp [checkStagesFrom, hkey, hstage, bind_eq_ok_iff, checkColumn_eq_ok_iff, map_eq_ok_iff,
          ih hrest, stageColumns, and_assoc, and_left_comm]
      · have hkey := Stage.ofKey?_eq_some_iff.not.mpr hstage
        simp [checkStagesFrom, hkey, hstage]

/-- The columns traced are those of the first seven stages. -/
theorem traced_stageColumns {drafts : List StageDraft}
    (hlength : drafts.length = Stage.canonical.length) :
    ((stageColumns Stage.canonical drafts).filter (!·.stage.isCapacityGate)).map (·.column) =
      (drafts.take 7).map fun s => trim s.column := by
  match drafts, hlength with
  | [_, _, _, _, _, _, _, _], _ => rfl

theorem gate_stageColumns {drafts : List StageDraft}
    (hlength : drafts.length = Stage.canonical.length) :
    (stageColumns Stage.canonical drafts).getLast?.map (·.column) =
      drafts.getLast?.map fun s => trim s.column := by
  match drafts, hlength with
  | [_, _, _, _, _, _, _, _], _ => rfl

theorem checkStages_eq_ok_iff {keys : List String} {column : String} {drafts : List StageDraft}
    {stages : List StageColumn} :
    checkStages keys column drafts = .ok stages ↔
      drafts.map (fun s => trim s.stage) = Stage.canonical.map (·.key) ∧
        (∀ s ∈ drafts, trim s.column ≠ "") ∧
        (∀ key ∈ keys, key ∈ (drafts.take 7).map fun s => trim s.column) ∧
        drafts.getLast?.map (fun s => trim s.column) = some column ∧
        stageColumns Stage.canonical drafts = stages := by
  unfold checkStages
  by_cases hlength : drafts.length = Stage.canonical.length
  · simp only [hlength, bne_self_eq_false, Bool.false_eq_true, if_false, bind_eq_ok_iff,
      checkStagesFrom_eq_ok_iff hlength, and_assoc, exists_and_left, exists_eq_left',
      traced_stageColumns hlength, gate_stageColumns hlength]
    obtain ⟨gate, hgate⟩ : ∃ gate, drafts.getLast? = some gate := by
      cases drafts with
      | nil => cases hlength
      | cons draft drafts => exact ⟨_, List.getLast?_cons⟩
    rw [hgate]
    generalize (drafts.take 7).map (fun s => trim s.column) = traced
    split
    · rename_i key hkey
      have huntraced : key ∉ traced := by simpa using List.find?_some hkey
      constructor
      · rintro ⟨-, -, h⟩
        cases h
      · rintro ⟨-, -, htraced, -⟩
        exact absurd (htraced key (List.mem_of_find?_eq_some hkey)) huntraced
    · rename_i hnone
      have htraced : ∀ key ∈ keys, key ∈ traced := by simpa using hnone
      by_cases hcolumn : trim gate.column = column
      · simp only [hcolumn, Option.map_some, Option.getD_some, bne_self_eq_false,
          Bool.false_eq_true, if_false, pure_eq_ok_iff, true_and]
        exact ⟨fun ⟨hkeys, hne, h⟩ => ⟨hkeys, hne, htraced, h⟩,
          fun ⟨hkeys, hne, _, h⟩ => ⟨hkeys, hne, h⟩⟩
      · simp [hcolumn]
  · have hkeys : drafts.map (fun s => trim s.stage) ≠ Stage.canonical.map (·.key) := by
      intro h
      exact hlength (by simpa using congrArg List.length h)
    simp [hlength, hkeys]

/-! ### Ranking rules -/

theorem checkRule_eq_ok_iff {seen : List RuleKind} {column : String} {draft : RuleDraft}
    {rule : Rule} :
    checkRule seen column draft = .ok rule ↔
      trim draft.name = rule.kind.name ∧ rule.kind ∉ seen ∧
        Direction.ofText? draft.direction = some rule.kind.direction ∧
        (trim draft.column = "" ∨ trim draft.column = ruleColumn column rule.kind) ∧
        ⟨rule.kind, ruleColumn column rule.kind, rule.kind.direction⟩ = rule := by
  have hallowed (expected : String) :
      (!(trim draft.column).isEmpty && trim draft.column != expected) = false ↔
        trim draft.column = "" ∨ trim draft.column = expected := by
    rw [Bool.and_eq_false_iff, Bool.not_eq_false', String.isEmpty_iff, bne_eq_false_iff_eq]
  unfold checkRule
  constructor
  · intro h
    cases hkind : RuleKind.ofName? draft.name with
    | none => simp [hkind] at h
    | some kind =>
      simp only [hkind] at h
      split at h
      · cases h
      split at h
      · cases h
      split at h
      · cases h
      rename_i hseen hdirection hcolumn
      cases h
      rw [Bool.not_eq_true] at hcolumn
      exact ⟨RuleKind.ofName?_eq_some_iff.mp hkind, by simpa using hseen, by simpa using hdirection,
        (hallowed _).mp hcolumn, rfl⟩
  · rintro ⟨hname, hseen, hdirection, hcolumn, hrule⟩
    simp only [RuleKind.ofName?_eq_some_iff.mpr hname, (hallowed _).mpr hcolumn, hdirection]
    simp [hseen, hrule]

/-- What a document has to say of a rule: the name of a kind, the direction of that kind, and the
column that it reads, or none. -/
structure RuleDraft.Names (draft : RuleDraft) (column : String) (k : RuleKind) : Prop where
  name_eq : trim draft.name = k.name
  direction_eq : Direction.ofText? draft.direction = some k.direction
  column_eq : trim draft.column = "" ∨ trim draft.column = ruleColumn column k

/-- The rule of a kind where the seats are in a column. -/
def ruleOf (column : String) (k : RuleKind) : Rule :=
  ⟨k, ruleColumn column k, k.direction⟩

theorem checkRulesAfter_eq_ok_iff {seen : List RuleKind} {column : String}
    {drafts : List RuleDraft} {rules : List Rule} :
    checkRulesAfter seen column drafts = .ok rules ↔
      ∃ kinds : List RuleKind, List.Forall₂ (·.Names column) drafts kinds ∧
        (kinds.Nodup ∧ ∀ k ∈ kinds, k ∉ seen) ∧ kinds.map (ruleOf column) = rules := by
  induction drafts generalizing seen rules with
  | nil =>
    simp [checkRulesAfter]
  | cons draft drafts ih =>
    simp only [checkRulesAfter, bind_eq_ok_iff, pure_eq_ok_iff, ih, List.forall₂_cons_left_iff]
    constructor
    · rintro ⟨rule, hrule, _, ⟨kinds, hkinds, hfresh, rfl⟩, rfl⟩
      obtain ⟨hname, hseen, hdirection, hcolumn, heq⟩ := checkRule_eq_ok_iff.mp hrule
      exact ⟨rule.kind :: kinds, ⟨_, _, ⟨hname, hdirection, hcolumn⟩, hkinds, rfl⟩,
        nodup_and_fresh_cons.mpr ⟨hseen, hfresh⟩, by rw [List.map_cons, ruleOf, heq]⟩
    · rintro ⟨_, ⟨k, kinds, hk, hkinds, rfl⟩, hfresh, rfl⟩
      obtain ⟨hseen, hrest⟩ := nodup_and_fresh_cons.mp hfresh
      have hrule : checkRule seen column draft = .ok (ruleOf column k) :=
        checkRule_eq_ok_iff.mpr ⟨hk.name_eq, hseen, hk.direction_eq, hk.column_eq, rfl⟩
      exact ⟨_, hrule, _, ⟨kinds, hkinds, hrest, rfl⟩, rfl⟩

@[simp] theorem map_kind_ruleOf (column : String) (kinds : List RuleKind) :
    (kinds.map (ruleOf column)).map (·.kind) = kinds := by
  rw [List.map_map]
  exact List.map_id kinds

theorem checkRules_eq_ok_iff {column : String} {drafts : List RuleDraft} {rules : List Rule} :
    checkRules column drafts = .ok rules ↔
      ∃ kinds : List RuleKind, List.Forall₂ (·.Names column) drafts kinds ∧ kinds.Nodup ∧
        (∀ k : RuleKind, k.isRequired = true → k ∈ kinds) ∧
        kinds.getLast? = some .minMentorId ∧ kinds.map (ruleOf column) = rules := by
  simp only [checkRules, bind_eq_ok_iff, checkRulesAfter_eq_ok_iff]
  constructor
  · rintro ⟨_, ⟨kinds, hkinds, ⟨hnodup, -⟩, rfl⟩, h⟩
    rw [map_kind_ruleOf] at h
    split at h
    · cases h
    split at h
    · cases h
    rename_i hnone hlast
    rw [pure_eq_ok_iff] at h
    refine ⟨kinds, hkinds, hnodup, fun k hk => ?_, by simpa using hlast, h⟩
    have hall : k ∈ RuleKind.all := by cases k <;> decide
    simpa [hk] using List.find?_eq_none.mp hnone k hall
  · rintro ⟨kinds, hkinds, hnodup, hrequired, hlast, rfl⟩
    refine ⟨_, ⟨kinds, hkinds, ⟨hnodup, by simp⟩, rfl⟩, ?_⟩
    have hnone : RuleKind.all.find? (fun k => k.isRequired && !kinds.contains k) = none := by
      simpa [List.find?_eq_none] using fun k _ => hrequired k
    rw [map_kind_ruleOf, hnone, hlast]
    rfl

/-! ### Fairness and gender codes -/

theorem checkFairness_eq_ok_iff {text? : Option String} {f : Fairness} :
    checkFairness text? = .ok f ↔
      (∀ text ∈ text?, (Fairness.ofText? text).isSome) ∧
        (text?.bind Fairness.ofText?).getD .deterministic = f := by
  cases text? with
  | none => simp [checkFairness]
  | some text =>
    cases h : Fairness.ofText? text <;> simp [checkFairness, h]

/-- Two entries under the two digits, in either order. -/
theorem perm_digits_iff {α : Type} {entries : List (String × α)} {x y : α} :
    entries.Perm [("0", x), ("1", y)] ↔
      entries.length = 2 ∧ entries.lookup "0" = some x ∧ entries.lookup "1" = some y := by
  constructor
  · intro h
    rcases List.perm_pair.mp h with rfl | rfl <;> exact ⟨rfl, rfl, rfl⟩
  · rintro ⟨hlength, hx, hy⟩
    match entries, hlength with
    | [(k, v), (k', v')], _ =>
      rw [List.perm_pair]
      simp only [Dictionary.lookup_cons_ite, List.lookup_nil] at hx hy
      grind

theorem checkGenderCodes_eq_ok_iff {codes : Dictionary String Nat} {c : GenderCodes} :
    checkGenderCodes codes = .ok c ↔
      (codes.entries.map fun (key, code) => (trim key, code)).Perm
          [("0", c.female), ("1", c.male)] ∧
        isThreeDigits c.female = true ∧ isThreeDigits c.male = true ∧ c.female ≠ c.male := by
  rw [perm_digits_iff]
  unfold checkGenderCodes
  generalize codes.entries.map (fun (key, code) => (trim key, code)) = entries
  constructor
  · intro h
    simp only at h
    split at h
    · rename_i female male hlength hfemale hmale
      split at h
      · cases h
      split at h
      · cases h
      split at h
      · cases h
      rename_i hthree hthree' hne
      cases h
      exact ⟨⟨by simpa using hlength, hfemale, hmale⟩, by simpa using hthree,
        by simpa using hthree', by simpa using hne⟩
    · cases h
  · rintro ⟨⟨hlength, hfemale, hmale⟩, hthree, hthree', hne⟩
    simp [hlength, hfemale, hmale, hthree, hthree', hne]

/-! ### The whole document -/

/-- The sections without a value among those that have a default. -/
def Draft.absent (d : Draft) : List Section :=
  noteOn .version d.version ++ noteOn .capacityColumn d.capacityColumn ++
    noteOn .rankingRules d.rankingRules ++ noteOn .genderCodes d.genderCodes

/-- What the sections of a document come to in the policy made of it. -/
structure Draft.Passes (mode : Mode) (d : Draft) (p : Policy) : Prop where
  version : ∃ text, Gives mode defaultVersion .ok d.version text ∧
    checkVersion text = .ok p.version
  joinKeys : ∃ texts, d.joinKeys = some texts ∧ checkJoinKeys texts = .ok p.joinKeys
  capacityColumn : ∃ text, Gives mode defaultCapacityColumn .ok d.capacityColumn text ∧
    checkColumn (.stage .capacityGate) text = .ok p.capacityColumn
  stages : ∃ drafts, d.traceStages = some drafts ∧
    checkStages p.joinKeys p.capacityColumn drafts = .ok p.stages
  rankingRules : Gives mode defaultRules (checkRules p.capacityColumn) d.rankingRules p.rankingRules
  genderCodes : Gives mode .standard checkGenderCodes d.genderCodes p.genderCodes
  fairness : checkFairness d.fairness = .ok p.fairness
  schoolWildcard : d.schoolWildcard.getD false = p.schoolWildcard
  columnAliases : trimAliases d.columnAliases = p.columnAliases
  migrated : d.absent = p.migrated

theorem check_eq_ok_iff {mode : Mode} {d : Draft} {p : Policy} :
    check mode d = .ok p ↔ d.Passes mode p := by
  simp only [check, bind_eq_ok_iff, pure_eq_ok_iff, require_eq_ok_iff, Prod.exists, need_eq_ok_iff,
    checkSection_eq_ok_iff]
  constructor
  · rintro ⟨_, _, ⟨hversion, rfl⟩, _, hv, _, hkeys, _, hk, _, _, ⟨hcolumn, rfl⟩, _, hc, _, hstages,
      _, hs, _, _, ⟨hrules, rfl⟩, _, _, ⟨hcodes, rfl⟩, _, hfairness, rfl⟩
    exact ⟨⟨_, hversion, hv⟩, ⟨_, hkeys, hk⟩, ⟨_, hcolumn, hc⟩, ⟨_, hstages, hs⟩, hrules, hcodes,
      hfairness, rfl, rfl, rfl⟩
  · rintro ⟨⟨_, hversion, hv⟩, ⟨_, hkeys, hk⟩, ⟨_, hcolumn, hc⟩, ⟨_, hstages, hs⟩, hrules, hcodes,
      hfairness, hwildcard, haliases, hmigrated⟩
    refine ⟨_, _, ⟨hversion, rfl⟩, _, hv, _, hkeys, _, hk, _, _, ⟨hcolumn, rfl⟩, _, hc, _, hstages,
      _, hs, _, _, ⟨hrules, rfl⟩, _, _, ⟨hcodes, rfl⟩, _, hfairness, ?_⟩
    rw [Draft.absent] at hmigrated
    rw [List.nil_append, hwildcard, haliases, hmigrated]

end Policy

end Mentorship
