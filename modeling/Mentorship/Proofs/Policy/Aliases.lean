import Mentorship.Proofs.Matching.Headers
import Mentorship.Proofs.Policy.Checked

/-! Aliases of columns. A document can name one column in several entries that differ in the blanks
around it. The last of these entries replaces the others, so that an alias is kept if that entry
lists it; and a kept alias of the column of a field is accepted as a header for this field. -/

namespace Mentorship.Policy

open Text Matching

variable {mode : Mode} {d : Draft} {p : Policy} {column name : String} {names : List String}

/-- The aliases in the last entry for a column, blanks around it not counted. -/
def Draft.lastAliases? (d : Draft) (column : String) : Option (List String) :=
  (d.columnAliases.entries.reverse.find? fun entry => trim entry.1 == column).map (·.2)

/-- An entry is the last one for its column if it is the only one. -/
theorem Draft.lastAliases?_of_unique (hentry : (column, names) ∈ d.columnAliases.entries)
    (hunique : ∀ entry ∈ d.columnAliases.entries, trim entry.1 = trim column →
      entry = (column, names)) :
    d.lastAliases? (trim column) = some names := by
  rw [lastAliases?]
  cases hfind : d.columnAliases.entries.reverse.find? fun entry => trim entry.1 == trim column with
  | none =>
    have hnone := List.find?_eq_none.mp hfind (column, names) (List.mem_reverse.mpr hentry)
    exact absurd (beq_self_eq_true _) hnone
  | some entry =>
    have hmem := List.mem_reverse.mp (List.mem_of_find?_eq_some hfind)
    have hfound := List.find?_some hfind
    have htrim : trim entry.1 = trim column := beq_iff_eq.mp hfound
    rw [hunique entry hmem htrim]
    rfl

theorem lookup_map_trim (entries : List (String × List String)) (column : String) :
    (entries.map fun (key, names) => (trim key, (names.map trim).filter (!·.isEmpty))).lookup
        column =
      (entries.find? fun entry => trim entry.1 == column).map fun entry =>
        (entry.2.map trim).filter (!·.isEmpty) := by
  induction entries with
  | nil => rfl
  | cons entry entries ih =>
    rw [List.map_cons, Dictionary.lookup_cons_ite, List.find?_cons, ih]
    by_cases h : column = trim entry.1
    · rw [if_pos h, beq_iff_eq.mpr h.symm]
      rfl
    · rw [if_neg h, beq_false_of_ne (Ne.symm h)]

/-- A checked policy has the aliases of the last entry for a column, trimmed and without blank
ones. -/
theorem mem_aliasesFor_iff (h : check mode d = .ok p) :
    name ∈ p.aliasesFor column ↔
      name ≠ "" ∧ ∃ names, d.lastAliases? column = some names ∧ name ∈ names.map trim := by
  have haliases := (check_eq_ok_iff.mp h).columnAliases
  rw [aliasesFor, ← haliases, trimAliases, Dictionary.find?_ofList, ← List.map_reverse,
    lookup_map_trim, Draft.lastAliases?]
  cases d.columnAliases.entries.reverse.find? fun entry => trim entry.1 == column with
  | none => simp
  | some entry => simp [and_comm]

/-- An alias of the column of a field is accepted as a header for it, in any spelling of its
label. -/
theorem accepts_of_mem_aliasesFor {f : Field} {header : String}
    (hcolumn : f.declared? p = some column) (halias : name ∈ p.aliasesFor column)
    (hlabel : label header = label name) : f.Accepts p header := by
  refine Columns.accepts_iff.mpr ⟨name, List.mem_append_left _ ?_, hlabel⟩
  rw [Field.declaredNames, hcolumn]
  exact List.mem_cons_of_mem _ halias

/-- An alias that is not blank is kept exactly if the last entry for its column lists it, which is
so if there is no other entry for that column. A kept alias is accepted as a header for each field
that the column is declared for. -/
theorem mem_aliasesFor_trim_iff (h : check mode d = .ok p)
    (hentry : (column, names) ∈ d.columnAliases.entries) (halias : name ∈ names)
    (hblank : trim name ≠ "") :
    (trim name ∈ p.aliasesFor (trim column) ↔
      ∃ last, d.lastAliases? (trim column) = some last ∧ trim name ∈ last.map trim) ∧
    ((∀ entry ∈ d.columnAliases.entries, trim entry.1 = trim column → entry = (column, names)) →
      trim name ∈ p.aliasesFor (trim column)) ∧
    (trim name ∈ p.aliasesFor (trim column) → ∀ f : Field, f.declared? p = some (trim column) →
      ∀ header, label header = label name → f.Accepts p header) := by
  have hkept : trim name ∈ p.aliasesFor (trim column) ↔
      ∃ last, d.lastAliases? (trim column) = some last ∧ trim name ∈ last.map trim := by
    rw [mem_aliasesFor_iff h, and_iff_right hblank]
  refine ⟨hkept, fun hunique => ?_, fun hmem f hf header hlabel => ?_⟩
  · exact hkept.mpr ⟨names, Draft.lastAliases?_of_unique hentry hunique, List.mem_map_of_mem halias⟩
  · exact accepts_of_mem_aliasesFor hf hmem (hlabel.trans (label_trim name).symm)

/-- A plain document with aliases in which the column of the group is named twice, once with a blank
before it. -/
def Draft.aliased : Draft :=
  { Draft.plain .deterministic with
    columnAliases :=
      ⟨[(" group", ["cohort"]), ("group", ["batch"]), ("school", [" Campus "])]⟩ }

/-- The policy of that document. -/
def aliased : Policy :=
  { plain .deterministic with
    columnAliases := ⟨[("group", ["batch"]), ("school", ["Campus"])]⟩ }

theorem check_aliased : check .migrate .aliased = .ok aliased := by
  rfl

/-- An alias of the school is kept and accepted in capital letters. -/
theorem mem_aliasesFor_aliased :
    check .migrate .aliased = .ok aliased ∧
    ("school", [" Campus "]) ∈ Draft.aliased.columnAliases.entries ∧ trim " Campus " ≠ "" ∧
    trim " Campus " ∈ aliased.aliasesFor (trim "school") ∧
    (Field.trait .school).Accepts aliased "CAMPUS" := by
  have hblank : trim " Campus " ≠ "" := by decide
  obtain ⟨-, hkept, haccepts⟩ := mem_aliasesFor_trim_iff check_aliased
    (by decide : ("school", [" Campus "]) ∈ Draft.aliased.columnAliases.entries)
    List.mem_cons_self hblank
  have hmem := hkept (by decide)
  exact ⟨check_aliased, by decide, hblank, hmem,
    haccepts hmem (.trait .school) (by decide) "CAMPUS" (by decide +kernel)⟩

/-- An alias of the group is lost, since it is in the entry that is replaced. -/
theorem not_mem_aliasesFor_aliased :
    check .migrate .aliased = .ok aliased ∧
    (" group", ["cohort"]) ∈ Draft.aliased.columnAliases.entries ∧ trim "cohort" ≠ "" ∧
    trim "cohort" ∉ aliased.aliasesFor (trim " group") ∧
    (Field.trait .group).declared? aliased = some (trim " group") ∧
    ¬ (Field.trait .group).Accepts aliased "cohort" := by
  refine ⟨check_aliased, by decide, by decide, by decide, by decide, fun haccepts => ?_⟩
  obtain ⟨name, hname, hlabel⟩ := Columns.accepts_iff.mp haccepts
  have hplain : ∀ name ∈ (Field.trait .group).spellings aliased, isPlainName name = true :=
    Field.isPlainName_of_mem_spellings (by decide +kernel)
  rw [label_of_isPlainName (hplain name hname), label_of_isSmallName (by decide)] at hlabel
  subst hlabel
  revert hname
  decide

end Mentorship.Policy
