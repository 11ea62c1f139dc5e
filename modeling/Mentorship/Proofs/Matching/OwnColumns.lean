import Mentorship.Proofs.Matching.Headers
import Mentorship.Proofs.Policy.Checked

/-! Columns of their own. Each field of a sheet is searched for by itself, among the names that a
policy declares for it and the well-known ones. No well-known name is that of two fields of a sheet,
but a policy can declare for one field what is a name of another, and then there are sheets on which
both read one column. A required field is always read from a header accepted for it, and if there is
none the sheet is refused. -/

namespace Mentorship.Matching.Columns

open Text

variable {p : Policy} {kind : SheetKind} {headers : List String} {c : Columns} {f g : Field}
  {n : Nat}

/-! ### Fields that are not found -/

theorem isNone_locateField_iff :
    (locateField headers p f).isNone = true ↔ ∀ header ∈ headers, ¬ f.Accepts p header := by
  rw [← Option.not_isSome, Bool.not_eq_true', ← Bool.not_eq_true, isSome_locateField_iff]
  simp only [not_exists, not_and]

theorem lost?_eq_some_iff : lost? headers kind p = some f ↔
    ∃ before after, Field.required kind = before ++ f :: after ∧
      (∀ g ∈ before, ∃ header ∈ headers, g.Accepts p header) ∧
      ∀ header ∈ headers, ¬ f.Accepts p header := by
  simp only [lost?, List.find?_eq_some_iff_append, isNone_locateField_iff, Option.not_isNone,
    isSome_locateField_iff]
  constructor
  · rintro ⟨hnone, before, after, hrequired, hbefore⟩
    exact ⟨before, after, hrequired, hbefore, hnone⟩
  · rintro ⟨before, after, hrequired, hbefore, hnone⟩
    exact ⟨hnone, before, after, hrequired, hbefore⟩

theorem lost?_eq_none_of_accepts
    (h : ∀ f ∈ Field.required kind, ∃ header ∈ headers, f.Accepts p header) :
    lost? headers kind p = none := by
  rw [lost?, List.find?_eq_none]
  intro f hf hnone
  obtain ⟨header, hheader, haccepts⟩ := h f hf
  exact isNone_locateField_iff.mp hnone header hheader haccepts

/-- A sheet is refused for the first required field for which it has no accepted header. -/
theorem resolve_eq_error_iff {e : Error} : resolve headers kind p = .error e ↔
    ∃ before f after, Field.required kind = before ++ f :: after ∧
      (∀ g ∈ before, ∃ header ∈ headers, g.Accepts p header) ∧
      (∀ header ∈ headers, ¬ f.Accepts p header) ∧
      e = .missingColumn kind (f.displayName p) (f.acceptedNames p) := by
  have hlost : resolve headers kind p = .error e ↔
      ∃ f, lost? headers kind p = some f ∧ e = missing kind p f := by
    rw [resolve_eq]
    cases lost? headers kind p with
    | none => simp
    | some f => simp [eq_comm]
  rw [hlost]
  constructor
  · rintro ⟨f, hf, rfl⟩
    obtain ⟨before, after, hrequired, hbefore, hnone⟩ := lost?_eq_some_iff.mp hf
    exact ⟨before, f, after, hrequired, hbefore, hnone, rfl⟩
  · rintro ⟨before, f, after, hrequired, hbefore, hnone, rfl⟩
    exact ⟨f, lost?_eq_some_iff.mpr ⟨before, after, hrequired, hbefore, hnone⟩, rfl⟩

/-! ### Fields that are found -/

/-- Every field of a resolved sheet is read from a header that is accepted for it. -/
theorem exists_accepts_of_resolve (h : resolve headers kind p = .ok c)
    (hf : c.position? f = some n) :
    f ∈ readable kind ∧ ∃ header, headers[n]? = some header ∧ f.Accepts p header := by
  rw [position?_of_resolve h] at hf
  obtain ⟨hreadable, hfound⟩ := Option.ite_none_right_eq_some.mp hf
  exact ⟨hreadable, exists_accepts_of_locateField hfound⟩

/-! ### Names of one field and of another -/

/-- No name that a policy declares for a field has the label of a name of another field. -/
def Apart (p : Policy) (kind : SheetKind) : Prop :=
  ∀ f ∈ readable kind, ∀ g ∈ readable kind, f ≠ g →
    ∀ name ∈ f.declaredNames p, ∀ other ∈ g.spellings p, label name ≠ label other

/-- The well-known names of a sheet's fields are apart. -/
theorem eq_of_label_wellKnown (hf : f ∈ readable kind) (hg : g ∈ readable kind)
    {name other : String} (hname : name ∈ f.wellKnown) (hother : other ∈ g.wellKnown)
    (h : label name = label other) : f = g := by
  have hapart : ∀ f ∈ readable kind, ∀ g ∈ readable kind, ∀ name ∈ f.wellKnown,
      name ∈ g.wellKnown → f = g := by
    cases kind <;> decide +kernel
  rw [label_of_isPlainName (Field.isPlainName_of_mem_wellKnown hname),
    label_of_isPlainName (Field.isPlainName_of_mem_wellKnown hother)] at h
  exact hapart f hf g hg name hname (h ▸ hother)

theorem apart_iff : Apart p kind ↔ ∀ f ∈ readable kind, ∀ g ∈ readable kind, ∀ header,
    f.Accepts p header → g.Accepts p header → f = g := by
  constructor
  · intro hapart f hf g hg header hfaccepts hgaccepts
    obtain ⟨name, hname, hlabel⟩ := accepts_iff.mp hfaccepts
    obtain ⟨other, hother, hlabel'⟩ := accepts_iff.mp hgaccepts
    have hsame : label name = label other := hlabel.symm.trans hlabel'
    by_contra hne
    rcases List.mem_append.mp hname with hdeclared | hknown
    · exact hapart f hf g hg hne name hdeclared other hother hsame
    rcases List.mem_append.mp hother with hdeclared' | hknown'
    · exact hapart g hg f hf (Ne.symm hne) other hdeclared' name hname hsame.symm
    exact hne (eq_of_label_wellKnown hf hg hknown hknown' hsame)
  · intro haccepts f hf g hg hne name hname other hother hlabel
    exact hne (haccepts f hf g hg name
      (accepts_iff.mpr ⟨name, List.mem_append_left _ hname, rfl⟩)
      (accepts_iff.mpr ⟨other, hother, hlabel⟩))

/-- No sheet is resolved with two fields at one position. -/
def Unshared (p : Policy) (kind : SheetKind) : Prop :=
  ∀ headers c, resolve headers kind p = .ok c →
    ∀ f g n, c.position? f = some n → c.position? g = some n → f = g

theorem Apart.unshared (hapart : Apart p kind) : Unshared p kind := by
  intro headers c h f g n hf hg
  obtain ⟨hf, header, hn, hfaccepts⟩ := exists_accepts_of_resolve h hf
  obtain ⟨hg, header', hn', hgaccepts⟩ := exists_accepts_of_resolve h hg
  cases hn.symm.trans hn'
  exact apart_iff.mp hapart f hf g hg header hfaccepts hgaccepts

/-! ### A header for two fields -/

/-- A header, and for every required field but two its display name. -/
def sharedHeaders (p : Policy) (kind : SheetKind) (f g : Field) (header : String) : List String :=
  header :: ((Field.required kind).filter fun h => h ≠ f ∧ h ≠ g).map (·.displayName p)

theorem exists_mem_sharedHeaders {header : String} (hf : f.Accepts p header)
    (hg : g.Accepts p header) :
    ∀ h ∈ Field.required kind,
      ∃ header' ∈ sharedHeaders p kind f g header, h.Accepts p header' := by
  intro h hh
  by_cases hother : h ≠ f ∧ h ≠ g
  · have hmem : h ∈ (Field.required kind).filter fun h => h ≠ f ∧ h ≠ g :=
      List.mem_filter.mpr ⟨hh, decide_eq_true hother⟩
    exact ⟨h.displayName p, List.mem_cons_of_mem _ (List.mem_map_of_mem hmem),
      h.accepts_displayName p⟩
  · refine ⟨header, List.mem_cons_self, ?_⟩
    by_cases hhf : h = f
    · exact hhf ▸ hf
    · by_cases hhg : h = g
      · exact hhg ▸ hg
      · exact absurd ⟨hhf, hhg⟩ hother

/-- A field is found at the first header with its label. -/
theorem idxOf?_of_locateField (h : locateField headers p f = some n) {header : String}
    (hheader : headers[n]? = some header) :
    (headers.map label).idxOf? (label header) = some n := by
  rw [locateField, locate_eq] at h
  obtain ⟨name, -, hindex⟩ := List.exists_of_findSome?_eq_some h
  obtain ⟨hlt, hlabel, -⟩ := List.idxOf?_eq_some_iff.mp hindex
  have hname : label header = name := by
    rw [← hlabel, List.getElem_map]
    exact congrArg label (List.getElem?_eq_some_iff.mp hheader).2.symm
  rw [hname, hindex]

/-- Where nothing is shared, the header stands alone for either of the two fields. -/
theorem Unshared.position?_sharedHeaders (hunshared : Unshared p kind) {k : Field}
    {header : String} (hc : resolve (sharedHeaders p kind f g header) kind p = .ok c)
    (hk : k = f ∨ k = g) (hreadable : k ∈ readable kind) (haccepts : k.Accepts p header) :
    c.position? k = some 0 := by
  obtain ⟨n, hn⟩ := Option.isSome_iff_exists.mp
    (isSome_locateField_iff.mpr ⟨header, List.mem_cons_self, haccepts⟩ :
      (locateField (sharedHeaders p kind f g header) p k).isSome = true)
  have hposition (h : Field) (hh : h ∈ readable kind) :
      c.position? h = locateField (sharedHeaders p kind f g header) p h := by
    rw [position?_of_resolve hc, if_pos hh]
  rw [hposition k hreadable, hn]
  cases n with
  | zero => rfl
  | succ m =>
    -- The header there is the display name of another field, which is found there as well.
    obtain ⟨name, hname, -⟩ := exists_accepts_of_locateField hn
    have hindex := idxOf?_of_locateField hn hname
    obtain ⟨h, hh, rfl⟩ := List.mem_map.mp (List.mem_of_getElem? hname)
    obtain ⟨hrequired, hother⟩ := List.mem_filter.mp hh
    have hsame : h = k := by
      refine hunshared _ c hc h k (m + 1) ?_ ((hposition k hreadable).trans hn)
      rw [hposition h (required_subset_readable kind hrequired)]
      exact locateField_of_displayName hindex
    subst hsame
    exact absurd hk (not_or.mpr (of_decide_eq_true hother))

theorem Unshared.apart (hunshared : Unshared p kind) : Apart p kind := by
  rw [apart_iff]
  intro f hf g hg header hfaccepts hgaccepts
  have hfound : lost? (sharedHeaders p kind f g header) kind p = none :=
    lost?_eq_none_of_accepts (exists_mem_sharedHeaders hfaccepts hgaccepts)
  have hc := resolve_eq (p := p) (sharedHeaders p kind f g header) kind
  rw [hfound] at hc
  exact hunshared _ _ hc f g 0
    (hunshared.position?_sharedHeaders hc (.inl rfl) hf hfaccepts)
    (hunshared.position?_sharedHeaders hc (.inr rfl) hg hgaccepts)

/-- No two fields of a kind of sheet ever share a column exactly if no name that the policy declares
for one of them is a name of the other. Either way each field is read from a header accepted for it,
and a sheet without one for a required field is refused, with the first such field named. -/
theorem unshared_iff_apart (p : Policy) (kind : SheetKind) :
    (Unshared p kind ↔ Apart p kind) ∧
    (∀ headers c f n, resolve headers kind p = .ok c → c.position? f = some n →
      ∃ header, headers[n]? = some header ∧ f.Accepts p header) ∧
    ∀ headers e, resolve headers kind p = .error e ↔
      ∃ before f after, Field.required kind = before ++ f :: after ∧
        (∀ g ∈ before, ∃ header ∈ headers, g.Accepts p header) ∧
        (∀ header ∈ headers, ¬ f.Accepts p header) ∧
        e = .missingColumn kind (f.displayName p) (f.acceptedNames p) :=
  ⟨⟨Unshared.apart, Apart.unshared⟩, fun _ _ _ _ h hf => (exists_accepts_of_resolve h hf).2,
    fun _ _ => resolve_eq_error_iff⟩

/-- A plain document but for two columns: that of the type has a well-known name of the group. -/
def crossedDraft : Policy.Draft where
  joinKeys := some ["group", "exam_group", "gender", "graduation_status", "center", "finance"]
  traceStages := some [⟨"type", "group"⟩, ⟨"group", "exam_group"⟩, ⟨"gender", "gender"⟩,
    ⟨"graduation_status", "graduation_status"⟩, ⟨"center", "center"⟩, ⟨"finance", "finance"⟩,
    ⟨"school", "school"⟩, ⟨"capacity_gate", "remaining_capacity"⟩]

/-- The policy of that document. -/
def crossed : Policy :=
  { Policy.plain .deterministic with
    joinKeys := ["group", "exam_group", "gender", "graduation_status", "center", "finance"]
    stages := [⟨.type, "group"⟩, ⟨.group, "exam_group"⟩, ⟨.gender, "gender"⟩,
      ⟨.graduationStatus, "graduation_status"⟩, ⟨.center, "center"⟩, ⟨.finance, "finance"⟩,
      ⟨.school, "school"⟩, ⟨.capacityGate, "remaining_capacity"⟩] }

/-- Headers without one for the group. -/
def crossedHeaders : List String :=
  ["group", "gender", "graduation_status", "center", "finance", "school", "student_id"]

/-- The columns of its eight stages are different, and yet on a sheet without a column for the group
the type and the group are read from one column. -/
theorem not_unshared_crossed :
    Policy.check .migrate crossedDraft = .ok crossed ∧
    crossed.stages.length = 8 ∧ ((crossed.stages.map (·.column)).map label).Nodup ∧
    ∃ c, resolve crossedHeaders .students crossed = .ok c ∧
      c.position? (.trait .type) = some 0 ∧ c.position? (.trait .group) = some 0 := by
  have hnodup : ((crossed.stages.map (·.column)).map label).Nodup := by
    rw [map_label_of_isPlainName (by decide +kernel)]
    decide
  have hdeclared : ∀ f ∈ readable .students, ∀ name ∈ f.declaredNames crossed,
      isPlainName name = true := by decide +kernel
  have hlocate (f : Field) (hf : f ∈ readable .students) : locateField crossedHeaders crossed f =
      (f.spellings crossed).findSome? (crossedHeaders.idxOf? ·) :=
    locateField_of_isPlainName (by decide +kernel) (hdeclared f hf)
  have hlost : lost? crossedHeaders .students crossed = none := by
    rw [lost?, List.find?_eq_none]
    intro f hf
    rw [hlocate f hf]
    revert f
    decide +kernel
  have hresolve := resolve_eq (p := crossed) crossedHeaders .students
  rw [hlost] at hresolve
  refine ⟨rfl, rfl, hnodup, _, hresolve, ?_, ?_⟩
  · rw [position?_of_resolve hresolve, if_pos (by decide), hlocate _ (by decide)]
    decide +kernel
  · rw [position?_of_resolve hresolve, if_pos (by decide), hlocate _ (by decide)]
    decide +kernel

end Mentorship.Matching.Columns
