import Mentorship.Proofs.Registration.CanonicalIds
import Mentorship.Proofs.Registration.Recording
import Mentorship.Proofs.Sheet.File
import Mentorship.Registration.Tables

/-! Assignments read again. The file that an assignment is written to serves as a roster, as the ids
of the prior year and as those of the current one. National ids and new ids are digits, and an id
kept from the prior year came out of a cell, so that no blanks are at its ends and it is no blank
mark: all of them survive being written and read. -/

namespace Mentorship

/-! ### Texts that survive -/

namespace Text

/-- A text that a cell holds as it is and that stands for a value. -/
structure IsValue (s : String) : Prop where
  trim_eq : trim s = s
  not_blank : isBlankMark s = false

theorem isValue_of_digits {s : String} (hne : s.toList ≠ [])
    (h : ∀ c ∈ s.toList, isDigit c = true) : IsValue s where
  trim_eq := trim_of_digits h
  not_blank := by
    obtain ⟨c, cs, hcs⟩ := List.exists_cons_of_ne_nil hne
    have hc : c ∈ s.toList := hcs ▸ List.mem_cons_self
    exact isBlankMark_of_isAnyDigit hc (isAnyDigit_of_isDigit (h c hc))

end Text

namespace Registration

open Matching Text
open Policy (Gender)

/-! ### Texts of an assignment -/

theorem NationalId.isValue_text (x : NationalId) : IsValue x.text :=
  isValue_of_digits x.toList_ne_nil x.isDigit_text

theorem readId_text (roster : RosterKind) (row : Nat) (x : NationalId) :
    readId roster row x.text = .ok x := by
  unfold readId
  rw [x.ofText?_text]

theorem readGender_digit (row : Nat) (g : Gender) :
    readGender row (toString g.digit) = .ok g := by
  have hdigit : gender? (toString g.digit) = some g := by cases g <;> rfl
  unfold readGender
  rw [hdigit]

/-! ### Ids out of cells -/

namespace Prior

/-- Ids on record that survive. -/
def AreValues (prior : Prior) : Prop :=
  ∀ x id, prior.find? x = some id → IsValue id

variable {prior loaded : Prior}

theorem AreValues.insert {x : NationalId} {id : String} (h : prior.AreValues) (hid : IsValue id) :
    AreValues (prior.insert x id) := by
  intro y id' hy
  rw [Dictionary.find?_insert] at hy
  split at hy
  · rw [← Option.some.inj hy]
    exact hid
  · exact h y id' hy

theorem AreValues.addRows {idColumn counterColumn row : Nat} {rows : List (List String)}
    (h : prior.AreValues)
    (hrows : ∀ cells ∈ rows, trim (Sheet.cellAt cells counterColumn) =
      Sheet.cellAt cells counterColumn)
    (hadd : Prior.addRows idColumn counterColumn row prior rows = .ok loaded) :
    loaded.AreValues := by
  induction rows generalizing row prior with
  | nil =>
    cases hadd
    exact h
  | cons cells rows ih =>
    rw [List.forall_mem_cons] at hrows
    simp only [Prior.addRows] at hadd
    split at hadd
    · exact ih h hrows.2 hadd
    · rename_i hblank
      rw [Bool.or_eq_true, not_or, Bool.not_eq_true, Bool.not_eq_true] at hblank
      obtain ⟨x, -, hadd⟩ := bind_eq_ok_iff.mp hadd
      exact ih (h.insert ⟨hrows.1, hblank.2⟩) hrows.2 hadd

/-- Ids of the prior year that were read from a file survive. -/
theorem areValues_of_ofSheet {bytes : List UInt8} {sheet : Sheet}
    (hbytes : Sheet.ofBytes bytes = .ok sheet) (hload : ofSheet sheet = .ok loaded) :
    loaded.AreValues := by
  rw [ofSheet, bind_eq_ok_iff] at hload
  obtain ⟨idColumn, -, hload⟩ := hload
  rw [bind_eq_ok_iff] at hload
  obtain ⟨counterColumn, -, hload⟩ := hload
  have hempty : (∅ : Prior).AreValues := by
    intro x id h
    cases h
  exact hempty.addRows (fun cells h => Sheet.trim_cellAt_of_ofBytes hbytes h counterColumn) hload

end Prior

/-! ### An assignment in a file -/

variable {u : Assignment} {as : List Assignment}

theorem Tables.map_trim_row (h : IsValue u.id) : (row u).map trim = row u := by
  have hrow : trim (toString u.row) = toString u.row := by
    refine trim_of_digits fun c hc => ?_
    rw [Nat.toString_eq_ofList_toDigits, String.toList_ofList] at hc
    exact isDigit_of_mem_digitsOfNat hc
  have hgender : trim (toString u.gender.digit) = toString u.gender.digit := by
    cases u.gender <;> rfl
  have horigin : trim u.origin.label = u.origin.label := by
    cases u.origin <;> exact trim_of_isSmallName (by decide)
  simp only [row, List.map_cons, List.map_nil, hrow, hgender, horigin,
    u.nationalId.isValue_text.trim_eq, h.trim_eq]

theorem isTable_assignments : Sheet.IsTable Tables.columns Tables.row where
  names := List.all_eq_true.mp rfl
  wide := by decide
  length_row _ := rfl

/-- The sheet that assignments are read as if their ids survive. -/
theorem ofBytes_assignments (hne : as ≠ []) (h : ∀ u ∈ as, IsValue u.id) :
    Sheet.ofBytes (Tables.assignments as).toUTF8.toList =
      .ok ⟨Tables.columns, as.map Tables.row⟩ := by
  rw [Tables.assignments, isTable_assignments.ofBytes_textOf hne,
    List.map_congr_left fun u hu => Tables.map_trim_row (h u hu)]

/-! ### Columns of the file -/

namespace RosterField

/-- Where the fields of a roster are in a table of assignments. -/
def writtenAt : RosterField → Nat
  | nationalId => 1
  | gender => 2
  | counter => 3

theorem locate_columns (roster : RosterKind) (f : RosterField) :
    locate roster Tables.columns f = .ok f.writtenAt := by
  cases f with
  | nationalId =>
    exact locate_of_isSmallName roster ["row"] ["gender", "registration_id", "source"]
      (by decide) (by decide)
  | gender =>
    exact locate_of_isSmallName roster ["row", "national_id"] ["registration_id", "source"]
      (by decide) (by decide)
  | counter =>
    exact locate_of_isSmallName roster ["row", "national_id", "gender"] ["source"]
      (by decide) (by decide)

variable (u : Assignment)

@[simp] theorem cellAt_nationalId :
    Sheet.cellAt (Tables.row u) nationalId.writtenAt = u.nationalId.text := rfl

@[simp] theorem cellAt_gender :
    Sheet.cellAt (Tables.row u) gender.writtenAt = toString u.gender.digit := rfl

@[simp] theorem cellAt_counter : Sheet.cellAt (Tables.row u) counter.writtenAt = u.id := rfl

end RosterField

/-! ### The three readings -/

/-- As ids of the current year: those given. -/
theorem currentOfSheet_written (h : ∀ u ∈ as, IsValue u.id) :
    currentOfSheet ⟨Tables.columns, as.map Tables.row⟩ = .ok (as.map (·.id)) := by
  have hcells : (as.map Tables.row).map (Sheet.cellAt · RosterField.counter.writtenAt) =
      as.map (·.id) := by
    rw [List.map_map]
    rfl
  have hvalues : (as.map (·.id)).filter (!isBlankMark ·) = as.map (·.id) := by
    rw [List.filter_eq_self]
    intro id hid
    obtain ⟨u, hu, rfl⟩ := List.mem_map.mp hid
    rw [(h u hu).not_blank, Bool.not_false]
  rw [currentOfSheet, RosterField.locate_columns]
  exact congrArg Except.ok ((congrArg _ hcells).trans hvalues)

theorem Prior.addRows_written (row : Nat) (prior : Prior) (h : ∀ u ∈ as, IsValue u.id) :
    addRows RosterField.nationalId.writtenAt RosterField.counter.writtenAt row prior
      (as.map Tables.row) = .ok (prior.putAll as) := by
  induction as generalizing row prior with
  | nil => rfl
  | cons u as ih =>
    rw [List.forall_mem_cons] at h
    simp only [List.map_cons, addRows, RosterField.cellAt_nationalId, RosterField.cellAt_counter,
      u.nationalId.isValue_text.not_blank, h.1.not_blank, readId_text, Bool.or_false,
      Bool.false_eq_true, if_false]
    exact ih (row + 1) (prior.insert u.nationalId u.id) h.2

/-- As ids of the prior year: each of them put on record. -/
theorem Prior.ofSheet_written (h : ∀ u ∈ as, IsValue u.id) :
    ofSheet ⟨Tables.columns, as.map Tables.row⟩ = .ok (Prior.putAll as ∅) := by
  rw [ofSheet, RosterField.locate_columns, RosterField.locate_columns]
  exact addRows_written 1 ∅ h

theorem Entry.ofRowsFrom_written (row : Nat) (h : ∀ u ∈ as, IsValue u.id)
    (hrows : as.map (·.row) = List.range' row as.length) :
    ofRowsFrom RosterField.nationalId.writtenAt RosterField.gender.writtenAt row
      (as.map Tables.row) = .ok (as.map (·.entry)) := by
  induction as generalizing row with
  | nil => rfl
  | cons u as ih =>
    rw [List.forall_mem_cons] at h
    rw [List.map_cons, List.length_cons, List.range'_succ, List.cons.injEq] at hrows
    obtain ⟨hrow, hrows⟩ := hrows
    rw [List.map_cons, ofRowsFrom, RosterField.cellAt_nationalId, readId_text,
      RosterField.cellAt_gender, readGender_digit, ih (row + 1) h.2 hrows, ← hrow]
    rfl

/-- As a roster: the one served, where its rows were numbered from one. -/
theorem Entry.ofSheet_written (h : ∀ u ∈ as, IsValue u.id)
    (hrows : as.map (·.row) = List.range' 1 as.length) :
    ofSheet ⟨Tables.columns, as.map Tables.row⟩ = .ok (as.map (·.entry)) := by
  rw [ofSheet, RosterField.locate_columns, RosterField.locate_columns]
  exact ofRowsFrom_written 1 h hrows

/-! ### What is issued -/

/-- Rows are numbered as they are read. -/
theorem Entry.map_row_of_ofRowsFrom {idColumn genderColumn row : Nat} {rows : List (List String)}
    {roster : List Entry} (h : ofRowsFrom idColumn genderColumn row rows = .ok roster) :
    roster.map (·.row) = List.range' row roster.length := by
  induction rows generalizing row roster with
  | nil =>
    cases h
    rfl
  | cons cells rows ih =>
    simp only [ofRowsFrom, bind_eq_ok_iff, pure_eq_ok_iff] at h
    obtain ⟨x, -, g, -, rest, hrest, rfl⟩ := h
    rw [List.map_cons, ih hrest, List.length_cons, List.range'_succ]

theorem Entry.map_row_of_ofSheet {sheet : Sheet} {roster : List Entry}
    (h : ofSheet sheet = .ok roster) : roster.map (·.row) = List.range' 1 roster.length := by
  simp only [ofSheet, bind_eq_ok_iff] at h
  obtain ⟨idColumn, -, genderColumn, -, hrows⟩ := h
  exact map_row_of_ofRowsFrom hrows

theorem Id.isValue_render (x : Id) : IsValue x.render := by
  refine isValue_of_digits (fun hnil => ?_) fun c hc => isDigit_of_mem_render hc
  have hlength : 4 ≤ x.render.toList.length := by
    simp only [render, String.toList_ofList, List.length_append, paddedDigits, List.length_leftpad]
    omega
  rw [hnil] at hlength
  cases hlength

/-- Where every student has one id, it is on record once all are put. -/
theorem Prior.find?_putAll_empty {x : NationalId} {id : String}
    (h : ∀ u ∈ as, ∀ v ∈ as, u.nationalId = v.nationalId → u.id = v.id) :
    (putAll as ∅).find? x = some id ↔ ∃ u ∈ as, u.nationalId = x ∧ u.id = id := by
  by_cases hx : ∃ u ∈ as, u.nationalId = x
  · obtain ⟨u, hu, rfl⟩ := hx
    rw [find?_putAll_of_exists ⟨u, hu, rfl⟩ fun v hv hid => h v hv u hu hid, Option.some.injEq]
    constructor
    · rintro rfl
      exact ⟨u, hu, rfl, rfl⟩
    · rintro ⟨v, hv, hid, rfl⟩
      exact h u hu v hv hid.symm
  · have hnone : ∀ u ∈ as, u.nationalId ≠ x := fun u hu hid => hx ⟨u, hu, hid⟩
    rw [find?_putAll_of_forall_ne hnone]
    constructor
    · intro hsome
      cases hsome
    · rintro ⟨u, hu, hid, -⟩
      exact absurd hid (hnone u hu)

namespace Assigner

variable {a : Assigner} {roster : List Entry} {prior : Prior} {current : List String}

theorem isValue_of_mem_due (hp : prior.AreValues)
    (hu : u ∈ (a.due roster prior current).assignments) : IsValue u.id := by
  obtain ⟨e, he, hsame, hid⟩ := exists_of_mem_due hu
  rw [hid]
  cases hfind : prior.find? e.nationalId with
  | some id =>
    rw [idOf_of_find?_eq_some hfind]
    exact hp e.nationalId id hfind
  | none =>
    rw [idOf_of_find?_eq_none hfind]
    exact Id.isValue_render _

theorem id_eq_of_mem_due {v : Assignment} (hu : u ∈ (a.due roster prior current).assignments)
    (hv : v ∈ (a.due roster prior current).assignments) (h : u.nationalId = v.nationalId) :
    u.id = v.id := by
  obtain ⟨e, he, hsame, hid⟩ := exists_of_mem_due hu
  obtain ⟨f, -, hsame', hid'⟩ := exists_of_mem_due hv
  rw [hid, hid']
  exact idOf_congr a roster prior current he (hsame.trans (h.trans hsame'.symm))

/-- The file of a run that succeeds can be fed back. As ids of the current year it holds those that
were given, in order; as ids of the prior year, for every student of the roster the id given and
nobody else; and as a roster, the one that was served. -/
theorem assign_reread {rosterSheet priorSheet : Sheet} {priorBytes : List UInt8} {issue : Issue}
    (hroster : Entry.ofSheet rosterSheet = .ok roster) (hne : roster ≠ [])
    (hbytes : Sheet.ofBytes priorBytes = .ok priorSheet)
    (hprior : Prior.ofSheet priorSheet = .ok prior)
    (h : a.assign roster prior current = .ok issue) :
    ∃ sheet, Sheet.ofBytes (Tables.assignments issue.assignments).toUTF8.toList = .ok sheet ∧
      currentOfSheet sheet = .ok (issue.assignments.map (·.id)) ∧
      (∃ reread, Prior.ofSheet sheet = .ok reread ∧ ∀ x id, reread.find? x = some id ↔
        ∃ u ∈ issue.assignments, u.nationalId = x ∧ u.id = id) ∧
      Entry.ofSheet sheet = .ok roster ∧
      issue.assignments.map (·.nationalId) = roster.map (·.nationalId) := by
  rw [eq_due_of_assign h]
  have hvalues : ∀ u ∈ (a.due roster prior current).assignments, IsValue u.id := fun u hu =>
    isValue_of_mem_due (Prior.areValues_of_ofSheet hbytes hprior) hu
  have hwritten : (a.due roster prior current).assignments ≠ [] := by
    rw [← List.length_pos_iff, length_due, List.length_pos_iff]
    exact hne
  have hrows : (a.due roster prior current).assignments.map (·.row) =
      List.range' 1 (a.due roster prior current).assignments.length := by
    rw [length_due, ← Entry.map_row_of_ofSheet hroster]
    exact map_comp_entry_due (·.row)
  refine ⟨_, ofBytes_assignments hwritten hvalues, currentOfSheet_written hvalues,
    ⟨_, Prior.ofSheet_written hvalues, fun x id => ?_⟩, ?_, map_comp_entry_due (·.nationalId)⟩
  · exact Prior.find?_putAll_empty fun u hu v hv => id_eq_of_mem_due hu hv
  · rw [Entry.ofSheet_written hvalues hrows, map_entry_due]

def relistedSheet : Sheet where
  headers := ["national_id", "gender"]
  rows := [["5", "0"], ["3", "0"], ["5", "1"], ["4", "1"]]

theorem ofSheet_relistedSheet : Entry.ofSheet relistedSheet = .ok relisted := by
  have hid : RosterField.locate .students relistedSheet.headers .nationalId = .ok 0 :=
    RosterField.locate_of_isSmallName .students [] ["gender"] (by simp) List.mem_cons_self
  have hgender : RosterField.locate .students relistedSheet.headers .gender = .ok 1 :=
    RosterField.locate_of_isSmallName .students ["national_id"] [] (by decide)
      List.mem_cons_self
  rw [Entry.ofSheet, hid, hgender]
  rfl

/-- An id of the prior year that is none, with marks of a table in it. -/
def markedSheet : Sheet where
  headers := ["national_id", "counter"]
  rows := [["4", "n\n,\"a\"\r7"]]

def markedIds : Prior := ⟨[(.ofDigit 4, "n\n,\"a\"\r7")]⟩

theorem ofSheet_markedSheet : Prior.ofSheet markedSheet = .ok markedIds := by
  have hid : RosterField.locate .priorYear markedSheet.headers .nationalId = .ok 0 :=
    RosterField.locate_of_isSmallName .priorYear [] ["counter"] (by simp) List.mem_cons_self
  have hcounter : RosterField.locate .priorYear markedSheet.headers .counter = .ok 1 :=
    RosterField.locate_of_isSmallName .priorYear ["national_id"] [] (by decide)
      List.mem_cons_self
  rw [Prior.ofSheet, hid, hcounter]
  rfl

theorem ofBytes_markedSheet :
    Sheet.ofBytes (Sheet.textOf markedSheet.headers markedSheet.rows).toUTF8.toList =
      .ok markedSheet := by
  rw [Sheet.ofBytes_textOf (by decide) (by decide) (by decide)]
  rfl

/-- A student listed twice and one who keeps an id of the prior year that has to be quoted. -/
theorem assign_reread_relisted :
    Entry.ofSheet relistedSheet = .ok relisted ∧ relisted ≠ [] ∧
    Sheet.ofBytes (Sheet.textOf markedSheet.headers markedSheet.rows).toUTF8.toList =
      .ok markedSheet ∧
    Prior.ofSheet markedSheet = .ok markedIds ∧
    ∃ issue, of1404.assign relisted markedIds [] = .ok issue ∧
    ∃ sheet, Sheet.ofBytes (Tables.assignments issue.assignments).toUTF8.toList = .ok sheet ∧
      currentOfSheet sheet =
        .ok ["543730002", "543730001", "543730002", "n\n,\"a\"\r7"] ∧
      (∃ reread, Prior.ofSheet sheet = .ok reread ∧
        reread.find? (.ofDigit 4) = some "n\n,\"a\"\r7") ∧
      Entry.ofSheet sheet = .ok relisted := by
  have hunique : ensureUnique (of1404.due relisted markedIds []).assignments = .ok () := rfl
  have hassign : of1404.assign relisted markedIds [] = .ok (of1404.due relisted markedIds []) := by
    rw [assign_of_fits (by decide), hunique]
    rfl
  obtain ⟨sheet, hsheet, hcurrent, ⟨reread, hreread, hfind⟩, hentries, -⟩ :=
    assign_reread ofSheet_relistedSheet (List.cons_ne_nil _ _) ofBytes_markedSheet
      ofSheet_markedSheet hassign
  refine ⟨ofSheet_relistedSheet, List.cons_ne_nil _ _, ofBytes_markedSheet, ofSheet_markedSheet, _,
    hassign, sheet, hsheet, ?_, ⟨reread, hreread, (hfind _ _).mpr ?_⟩, hentries⟩
  · rw [hcurrent]
    rfl
  · exact ⟨_, List.mem_of_getElem? (i := 3) rfl, rfl, rfl⟩

end Assigner

end Registration

end Mentorship
