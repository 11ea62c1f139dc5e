import Mathlib.Data.List.Nodup
import Mentorship.Matching.Columns
import Mentorship.Proofs.Policy.Checked
import Mentorship.Proofs.Sequence
import Mentorship.Proofs.SmallNames

/-! Headers that are found. Each field of a sheet is searched for by itself, and a header is
accepted for it if it has the label of any of its spellings. The display name of a field is the
first of these, so a sheet whose headers are the display names of its fields is read column by
column. -/

namespace Mentorship

variable {α β : Type}

/-- A search does not see that elements were left out at which there is nothing to find. -/
theorem findSome?_filter {q : α → Bool} {g : α → Option β} {as : List α}
    (h : ∀ a ∈ as, q a = false → g a = none) : (as.filter q).findSome? g = as.findSome? g := by
  induction as with
  | nil => rfl
  | cons a as ih =>
    rw [List.forall_mem_cons] at h
    rw [List.filter_cons, List.findSome?_cons, ← ih h.2]
    cases hq : q a with
    | true => rw [if_pos rfl, List.findSome?_cons]
    | false => rw [if_neg Bool.false_ne_true, h.1 hq]

/-- Nor that repetitions were, if it does not tell them apart. -/
theorem findSome?_eraseDupsBy {r : α → α → Bool} {g : α → Option β}
    (h : ∀ a b, r a b = true → g a = g b) (as : List α) :
    (as.eraseDupsBy r).findSome? g = as.findSome? g := by
  generalize hn : as.length = n
  induction n using Nat.strong_induction_on generalizing as with
  | _ n ih =>
    cases as with
    | nil => rfl
    | cons a as =>
      rw [List.eraseDupsBy_cons, List.findSome?_cons, List.findSome?_cons]
      cases ha : g a with
      | some b => rfl
      | none =>
        have hshort := List.length_filter_le (fun b => decide (r b a = false)) as
        rw [List.length_cons] at hn
        dsimp only
        rw [ih _ (by omega) _ rfl]
        refine findSome?_filter fun b _ hb => ?_
        rw [h b a (by simpa using hb), ha]

/-- In a list without repetitions an element is found wherever it stands. -/
theorem idxOf?_of_nodup [DecidableEq α] {as : List α} (h : as.Nodup) {a : α} {n : Nat}
    (hn : as[n]? = some a) : as.idxOf? a = some n := by
  obtain ⟨hlt, rfl⟩ := List.getElem?_eq_some_iff.mp hn
  refine List.idxOf?_eq_some_iff.mpr ⟨hlt, rfl, fun j hj hsame => ?_⟩
  exact Nat.ne_of_lt hj (h.getElem_inj_iff.mp hsame)

namespace Matching

open Text

variable (p : Policy)

namespace Field

theorem wellKnown_ne_nil (f : Field) : f.wellKnown ≠ [] := by
  cases f with
  | trait s => cases s <;> exact List.cons_ne_nil _ _
  | _ => exact List.cons_ne_nil _ _

theorem isPlainName_of_mem_wellKnown {f : Field} {name : String} (h : name ∈ f.wellKnown) :
    isPlainName name = true := by
  have hplain : ∀ f ∈ Stage.canonical.map trait ++ [studentId, mentorId, remaining, initial],
      ∀ name ∈ f.wellKnown, isPlainName name = true := by decide +kernel
  have hf : f ∈ Stage.canonical.map trait ++ [studentId, mentorId, remaining, initial] := by
    cases f with
    | trait s => cases s <;> decide
    | _ => decide
  exact hplain f hf name h

/-- The first name accepted for a field is the one by which messages call it. -/
theorem exists_acceptedNames_eq_cons (f : Field) :
    ∃ names, f.acceptedNames p = f.displayName p :: names := by
  rw [acceptedNames, displayName]
  cases f.declared? p with
  | some column => exact ⟨_, List.eraseDupsBy_cons⟩
  | none =>
    obtain ⟨name, names, hnames⟩ := List.exists_cons_of_ne_nil f.wellKnown_ne_nil
    rw [hnames]
    exact ⟨_, List.eraseDupsBy_cons⟩

/-- The column that a policy declares for a field and the aliases of that column. -/
def declaredNames (f : Field) : List String :=
  ((f.declared? p).map fun column => column :: p.aliasesFor column).getD []

/-- All spellings of a field, with repetitions. -/
def spellings (f : Field) : List String :=
  f.declaredNames p ++ f.wellKnown

theorem isPlainName_of_mem_spellings {p : Policy} {f : Field}
    (h : ∀ name ∈ f.declaredNames p, isPlainName name = true) :
    ∀ name ∈ f.spellings p, isPlainName name = true := by
  intro name hname
  rcases List.mem_append.mp hname with hdeclared | hknown
  · exact h name hdeclared
  · exact isPlainName_of_mem_wellKnown hknown

theorem acceptedNames_eq (f : Field) :
    f.acceptedNames p = (f.spellings p).eraseDupsBy fun a b => label a == label b := by
  rw [acceptedNames, spellings, declaredNames]
  cases f.declared? p <;> rfl

/-- Headers that have the label of a name accepted for a field. -/
def Accepts (f : Field) (header : String) : Prop :=
  ∃ name ∈ f.acceptedNames p, label header = label name

theorem accepts_displayName (f : Field) : f.Accepts p (f.displayName p) := by
  obtain ⟨names, hnames⟩ := f.exists_acceptedNames_eq_cons p
  exact ⟨f.displayName p, hnames ▸ List.mem_cons_self, rfl⟩

end Field

namespace Columns

variable {p} {kind : SheetKind} {headers : List String} {c : Columns} {f : Field} {n : Nat}

/-! ### Finding a field -/

/-- Where a name is found depends on the labels of the headers alone. -/
theorem locate_eq (headers names : List String) :
    locate headers names = (names.map label).findSome? ((headers.map label).idxOf? ·) := by
  simp only [locate, List.findSome?_map, List.idxOf?, List.findIdx?_map, Function.comp_def]

theorem isSome_locate_iff {names : List String} :
    (locate headers names).isSome = true ↔
      ∃ header ∈ headers, ∃ name ∈ names, label header = label name := by
  rw [locate_eq, List.findSome?_isSome_iff]
  simp only [List.isSome_idxOf?, List.mem_map]
  constructor
  · rintro ⟨_, ⟨name, hname, rfl⟩, header, hheader, hlabel⟩
    exact ⟨header, hheader, name, hname, hlabel⟩
  · rintro ⟨header, hheader, name, hname, hlabel⟩
    exact ⟨_, ⟨name, hname, rfl⟩, header, hheader, hlabel⟩

/-- To find a field is to search for its spellings: to name each label once changes nothing. -/
theorem locateField_eq (headers : List String) (f : Field) :
    locateField headers p f = locate headers (f.spellings p) := by
  rw [locateField, f.acceptedNames_eq]
  refine findSome?_eraseDupsBy (fun a b hab => ?_) _
  rw [beq_iff_eq.mp hab]

/-- Plain names are searched for as they are. -/
theorem locateField_of_isPlainName
    (hheaders : ∀ header ∈ headers, isPlainName header = true)
    (hnames : ∀ name ∈ f.declaredNames p, isPlainName name = true) :
    locateField headers p f = (f.spellings p).findSome? (headers.idxOf? ·) := by
  rw [locateField_eq, locate_eq, map_label_of_isPlainName hheaders,
    map_label_of_isPlainName (Field.isPlainName_of_mem_spellings hnames)]

theorem isSome_locateField_iff :
    (locateField headers p f).isSome = true ↔ ∃ header ∈ headers, f.Accepts p header :=
  isSome_locate_iff

/-- A header is accepted for a field if it has the label of any of its spellings. -/
theorem accepts_iff {header : String} :
    f.Accepts p header ↔ ∃ name ∈ f.spellings p, label header = label name := by
  have hone : (locateField [header] p f).isSome = true ↔ f.Accepts p header := by
    rw [isSome_locateField_iff]
    simp only [List.mem_singleton, exists_eq_left]
  rw [← hone, locateField_eq, isSome_locate_iff]
  simp only [List.mem_singleton, exists_eq_left]

/-- A field is found at a header that is accepted for it. -/
theorem exists_accepts_of_locateField (h : locateField headers p f = some n) :
    ∃ header, headers[n]? = some header ∧ f.Accepts p header := by
  obtain ⟨name, hname, hindex⟩ := List.exists_of_findSome?_eq_some h
  obtain ⟨hlt, hlabel, -⟩ := List.findIdx?_eq_some_iff_getElem.mp hindex
  exact ⟨headers[n], List.getElem?_eq_getElem hlt, name, hname, beq_iff_eq.mp hlabel⟩

/-- A field is found wherever the first header with the label of its display name is. -/
theorem locateField_of_displayName
    (h : (headers.map label).idxOf? (label (f.displayName p)) = some n) :
    locateField headers p f = some n := by
  obtain ⟨names, hnames⟩ := f.exists_acceptedNames_eq_cons p
  rw [locateField, locate_eq, hnames, List.map_cons, List.findSome?_cons, h]

/-! ### Resolving a sheet -/

/-- All fields that a sheet can have. -/
def readable : SheetKind → List Field
  | .students => Field.required .students
  | .pool => Field.required .pool ++ [.initial]

theorem required_subset_readable (kind : SheetKind) : Field.required kind ⊆ readable kind := by
  cases kind with
  | students => exact List.Subset.refl _
  | pool => exact List.subset_append_left _ _

/-- A sheet without a header for a field. -/
def missing (kind : SheetKind) (p : Policy) (f : Field) : Error :=
  .missingColumn kind (f.displayName p) (f.acceptedNames p)

/-- The first required field for which there is no header. -/
def lost? (headers : List String) (kind : SheetKind) (p : Policy) : Option Field :=
  (Field.required kind).find? fun f => (locateField headers p f).isNone

/-- The fields of a list that are found, each on its own. -/
def found (headers : List String) (p : Policy) (fields : List Field) : List (Field × Nat) :=
  fields.filterMap fun f => (locateField headers p f).map (f, ·)

theorem found_cons (headers : List String) (f : Field) (fields : List Field) :
    found headers p (f :: fields) =
      ((locateField headers p f).map (f, ·)).toList ++ found headers p fields := by
  rw [found, List.filterMap_cons]
  cases locateField headers p f <;> rfl

theorem found_eq_map {place : Field → Nat} {fields : List Field}
    (h : ∀ f ∈ fields, locateField headers p f = some (place f)) :
    found headers p fields = fields.map fun f => (f, place f) := by
  induction fields with
  | nil => rfl
  | cons f fields ih =>
    rw [List.forall_mem_cons] at h
    rw [found_cons, h.1, ih h.2]
    rfl

theorem mapM_locateRequired (headers : List String) (kind : SheetKind) (fields : List Field) :
    fields.mapM (locateRequired headers kind p) =
      match fields.find? (fun f => (locateField headers p f).isNone) with
      | some f => .error (missing kind p f)
      | none => .ok (found headers p fields) := by
  induction fields with
  | nil => rfl
  | cons f fields ih =>
    rw [List.mapM_cons, ih, locateRequired, List.find?_cons, found_cons]
    cases locateField headers p f with
    | none => rfl
    | some n =>
      dsimp only [Option.isNone_some]
      cases fields.find? (fun f => (locateField headers p f).isNone) <;> rfl

/-- A sheet is resolved field by field, unless a required one is not found. -/
theorem resolve_eq (headers : List String) (kind : SheetKind) :
    resolve headers kind p =
      match lost? headers kind p with
      | some f => .error (missing kind p f)
      | none => .ok ⟨found headers p (readable kind)⟩ := by
  unfold resolve lost?
  rw [mapM_locateRequired]
  cases (Field.required kind).find? fun f => (locateField headers p f).isNone with
  | some f => rfl
  | none =>
    cases kind with
    | students =>
      show Except.ok (Columns.mk (found headers p _ ++ [])) = _
      rw [List.append_nil]
      rfl
    | pool =>
      have hreadable : found headers p (readable .pool) =
          found headers p (Field.required .pool) ++ found headers p [.initial] :=
        List.filterMap_append
      show _ = Except.ok (Columns.mk (found headers p (readable .pool)))
      rw [hreadable, found_cons headers .initial]
      cases locateField headers p .initial <;> rfl

theorem position?_found (headers : List String) (fields : List Field) (f : Field) :
    position? ⟨found headers p fields⟩ f =
      if f ∈ fields then locateField headers p f else none := by
  rw [position?]
  induction fields with
  | nil => rfl
  | cons g fields ih =>
    rw [found_cons, List.lookup_append, ih]
    by_cases hfg : f = g
    · subst hfg
      cases locateField headers p f with
      | none => simp
      | some n => simp
    · have hother : (f == g) = false := beq_false_of_ne hfg
      cases locateField headers p g with
      | none => simp [hfg]
      | some n => simp [hfg, List.lookup_cons, hother]

/-- A field of a resolved sheet has the position that it would have alone. -/
theorem position?_of_resolve (h : resolve headers kind p = .ok c) (f : Field) :
    c.position? f = if f ∈ readable kind then locateField headers p f else none := by
  rw [resolve_eq] at h
  cases hlost : lost? headers kind p with
  | some g => rw [hlost] at h; cases h
  | none =>
    rw [hlost] at h
    cases h
    exact position?_found headers _ f

theorem position?_lt_length (h : resolve headers kind p = .ok c)
    (hf : c.position? f = some n) : n < headers.length := by
  rw [position?_of_resolve h] at hf
  obtain ⟨-, hfound⟩ := Option.ite_none_right_eq_some.mp hf
  obtain ⟨header, hheader, -⟩ := exists_accepts_of_locateField hfound
  exact (List.getElem?_eq_some_iff.mp hheader).1

/-! ### Display names as headers -/

/-- Among headers that are the display names of fields, each of these fields is found in its
place. -/
theorem locateField_displayName {fields : List Field}
    (hlabels : ((fields.map (·.displayName p)).map label).Nodup) (hf : f ∈ fields) :
    locateField (fields.map (·.displayName p)) p f = some (fields.idxOf f) := by
  apply locateField_of_displayName
  apply idxOf?_of_nodup hlabels
  simp [List.getElem?_idxOf hf]

/-- Headers that are the display names of all fields are resolved in their order. -/
theorem resolve_displayName (hlabels : (((readable kind).map (·.displayName p)).map label).Nodup) :
    resolve ((readable kind).map (·.displayName p)) kind p =
      .ok ⟨(readable kind).map fun f => (f, (readable kind).idxOf f)⟩ := by
  have hfind (f : Field) (hf : f ∈ readable kind) := locateField_displayName hlabels hf
  have hlost : lost? ((readable kind).map (·.displayName p)) kind p = none := by
    rw [lost?, List.find?_eq_none]
    intro f hf
    simp [hfind f (required_subset_readable kind hf)]
  rw [resolve_eq, hlost, found_eq_map hfind]

/-- The display names of a plain policy are different words of small letters. -/
theorem resolve_plain (kind : SheetKind) (fairness : Policy.Fairness) :
    resolve ((readable kind).map (·.displayName (.plain fairness))) kind (.plain fairness) =
      .ok ⟨(readable kind).map fun f => (f, (readable kind).idxOf f)⟩ := by
  have hsmall : ∀ name ∈ (readable kind).map (·.displayName (.plain fairness)),
      isSmallName name = true := by
    cases kind <;> cases fairness <;> decide
  apply resolve_displayName
  rw [map_label_of_isPlainName fun name hname => isPlainName_of_isSmallName (hsmall name hname)]
  cases kind <;> cases fairness <;> decide

end Columns

end Matching

end Mentorship
