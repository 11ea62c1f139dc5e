import Mentorship.Policy.Version
import Mentorship.Proofs.Numerals
import Mentorship.Proofs.Sequence
import Mentorship.Proofs.Words

/-! Versions as texts. Blanks around a text are dropped before the build data are, so that the name
of a pre-release may end in blanks. These are lost when the version is read as it was written, and a
name of nothing else is not read at all. All other versions are read back, and with a plus sign
behind it every one is. -/

namespace Mentorship

/-! ### Pieces and digits -/

namespace Text

theorem pieces_eq_splitOn (separator : Char) (cs : List Char) :
    pieces separator cs = cs.splitOn separator := by
  induction cs with
  | nil => rfl
  | cons c cs ih =>
    rw [pieces, ih, List.splitOn, List.splitOn, List.splitOnP_cons_eq_if_modifyHead]

/-- No number of more digits than one is written with a zero in front. -/
theorem head?_digitsOfNat_ne {n : Nat} (h : 1 < (digitsOfNat n).length) :
    (digitsOfNat n).head? ≠ some '0' := by
  intro hzero
  obtain ⟨ds, hds⟩ := List.head?_eq_some_iff.mp hzero
  have hvalue : n = natOfDigits ds := by
    have hn := natOfDigits_digitsOfNat n
    rw [hds, natOfDigits_cons, show digitValue '0' = 0 from rfl, Nat.zero_mul, Nat.zero_add] at hn
    exact hn.symm
  have hlt : n < 10 ^ ds.length := by
    rw [hvalue]
    refine natOfDigits_lt fun c hc => isDigit_of_mem_digitsOfNat (n := n) ?_
    rw [hds]
    exact List.mem_cons_of_mem _ hc
  rw [hds, List.length_cons] at h
  have hle := (Nat.length_toDigits_le_iff (b := 10) (by decide) (by omega)).mpr hlt
  rw [← digitsOfNat, hds, List.length_cons] at hle
  omega

end Text

namespace Policy.Version

open Text

variable {s : String} {v : Version} {pre? : Option String}

theorem component?_digitsOfNat {n : Nat} (h : n < Number.wordLimit) :
    component? (digitsOfNat n) = some n := by
  have hempty : (digitsOfNat n).isEmpty = false :=
    List.isEmpty_eq_false_iff.mpr digitsOfNat_ne_nil
  have hall : (digitsOfNat n).all isDigit = true :=
    List.all_eq_true.mpr fun _ => isDigit_of_mem_digitsOfNat
  have hzero : (1 < (digitsOfNat n).length && (digitsOfNat n).head? == some '0') = false := by
    rw [Bool.and_eq_false_imp, decide_eq_true_eq, beq_eq_false_iff_ne]
    exact head?_digitsOfNat_ne
  rw [component?, hempty, hall, hzero]
  simp [h]

theorem lt_of_component? {ds : List Char} {n : Nat} (h : component? ds = some n) :
    n < Number.wordLimit := by
  simp only [component?] at h
  split at h
  · cases h
  · simpa using (Option.filter_eq_some_iff.mp h).2

/-! ### Reading -/

/-- The numbers fit in 64 bits, and the name of a pre-release is not empty and holds no plus sign,
with which the build data would begin. -/
structure IsRead (v : Version) : Prop where
  major_lt : v.major < Number.wordLimit
  minor_lt : v.minor < Number.wordLimit
  patch_lt : v.patch < Number.wordLimit
  name_ne : ∀ name ∈ v.preRelease, name ≠ ""
  plus_notMem : ∀ name ∈ v.preRelease, '+' ∉ name.toList

/-- The three numbers with points between them. -/
def numbers (v : Version) : List Char :=
  ['.'].intercalate ([v.major, v.minor, v.patch].map digitsOfNat)

/-- A name of a pre-release with the dash in front of it. -/
def dashed : Option String → List Char
  | none => []
  | some name => '-' :: name.toList

theorem exists_eq_append_dashed (cs : List Char) :
    ∃ core pre?, (∀ c ∈ core, c ≠ '-') ∧ cs = core ++ dashed pre? := by
  refine ⟨cs.takeWhile (· != '-'), (cs.dropWhile (· != '-')).tail?.map String.ofList,
    fun c hc => by simpa using List.mem_takeWhile_imp hc, ?_⟩
  conv_lhs => rw [← List.takeWhile_append_dropWhile (p := (· != '-')) (l := cs)]
  congr 1
  cases hrest : cs.dropWhile (· != '-') with
  | nil => rfl
  | cons c rest =>
    have hhead := List.head?_dropWhile_not (· != '-') cs
    rw [hrest] at hhead
    have hc : c = '-' := by simpa using hhead
    simp [hc, dashed]

theorem splitPreRelease_append {core : List Char} (h : ∀ c ∈ core, c ≠ '-') :
    splitPreRelease (core ++ dashed pre?) = (core, pre?.map String.toList) := by
  have hcore : ∀ c ∈ core, (c != '-') = true := by simpa using h
  rw [splitPreRelease, List.takeWhile_append_of_pos hcore, List.dropWhile_append_of_pos hcore]
  cases pre? <;> simp [dashed]

/-- What is read of a text whose blanks and build data have been dropped. -/
theorem ofText?_eq_some_iff {core : List Char} (hcore : ∀ c ∈ core, c ≠ '-')
    (hs : (trim s).toList.takeWhile (· != '+') = core ++ dashed pre?) :
    ofText? s = some v ↔ pre? ≠ some "" ∧
      (pieces '.' core).mapM component? = some [v.major, v.minor, v.patch] ∧
      v.preRelease = pre? := by
  have hempty : pre?.map String.toList = some [] ↔ pre? = some "" := by
    cases pre? <;> simp
  have hname : (pre?.map String.toList).map String.ofList = pre? := by
    cases pre? <;> simp
  unfold ofText?
  rw [hs, splitPreRelease_append hcore]
  simp only [beq_iff_eq, hempty, hname]
  split
  · simp_all
  · rename_i hne
    simp only [Option.bind_eq_bind, Option.bind_eq_some_iff]
    constructor
    · rintro ⟨ns, hns, h⟩
      split at h
      · cases h
        exact ⟨hne, hns, rfl⟩
      · cases h
    · rintro ⟨-, hns, rfl⟩
      exact ⟨_, hns, rfl⟩

/-! ### Writing -/

/-- Digits and points are no blanks, and neither is a dash or a plus sign. -/
theorem of_mem_numbers {c : Char} (h : c ∈ v.numbers) :
    isBlank c = false ∧ c ≠ '-' ∧ c ≠ '+' := by
  rcases mem_of_mem_intercalate h with rfl | ⟨ds, hds, hc⟩
  · decide
  · obtain ⟨n, -, rfl⟩ := List.mem_map.mp hds
    have hdigit := isDigit_of_mem_digitsOfNat hc
    refine ⟨isBlank_of_isDigit hdigit, ?_, ?_⟩
    · rintro rfl
      exact absurd hdigit (by decide)
    · rintro rfl
      exact absurd hdigit (by decide)

theorem numbers_eq (v : Version) : v.numbers = digitsOfNat v.major ++ '.' ::
    (digitsOfNat v.minor ++ '.' :: digitsOfNat v.patch) := by
  simp [numbers, List.intercalate_cons_cons]

theorem numbers_ne_nil (v : Version) : v.numbers ≠ [] := by
  rw [numbers_eq]
  simp

theorem toList_render (v : Version) : v.render.toList = v.numbers ++ dashed v.preRelease := by
  have hpoint : (toString ".").toList = ['.'] := rfl
  obtain ⟨major, minor, patch, pre?⟩ := v
  rw [numbers_eq]
  cases pre? <;> simp [render, dashed, digitsOfNat, hpoint]

theorem mapM_component?_numbers (h : v.IsRead) :
    (pieces '.' v.numbers).mapM component? = some [v.major, v.minor, v.patch] := by
  have hpoint : ∀ ds ∈ [v.major, v.minor, v.patch].map digitsOfNat, '.' ∉ ds := by
    intro ds hds hmem
    obtain ⟨n, -, rfl⟩ := List.mem_map.mp hds
    exact absurd (isDigit_of_mem_digitsOfNat hmem) (by decide)
  rw [numbers, pieces_eq_splitOn, List.splitOn_intercalate '.' hpoint (List.cons_ne_nil _ _)]
  simp [component?_digitsOfNat, h.major_lt, h.minor_lt, h.patch_lt]

/-! ### Reading what was written -/

/-- The text without the blanks at its end. -/
def trimEnd (s : String) : String :=
  String.ofList (trimEndChars s.toList)

theorem plus_notMem_trimEnd {name : String} (h : '+' ∉ name.toList) :
    '+' ∉ (trimEnd name).toList := by
  rw [trimEnd, String.toList_ofList, trimEndChars_eq]
  exact fun hmem => h ((List.rdropWhile_prefix isBlank _).subset hmem)

/-- A dash keeps the blanks in front of it. -/
theorem trimEndChars_append_dash (core cs : List Char) :
    trimEndChars (core ++ '-' :: cs) = core ++ '-' :: trimEndChars cs := by
  have hdash : ∀ c ∈ (core ++ ['-']).getLast?, isBlank c = false := by
    intro c hc
    rw [List.getLast?_concat] at hc
    exact Option.some.inj hc ▸ rfl
  simpa using @trimEndChars_append _ cs hdash

theorem trimEndChars_dashed (pre? : Option String) :
    trimEndChars (dashed pre?) = dashed (pre?.map trimEnd) := by
  cases pre? with
  | none => rfl
  | some name => simpa [dashed, trimEnd] using trimEndChars_append_dash [] name.toList

/-- Blanks are found only behind the numbers. -/
theorem trimChars_numbers_append (v : Version) (cs : List Char) :
    trimChars (v.numbers ++ cs) = v.numbers ++ trimEndChars cs := by
  have hstart : trimStartChars (v.numbers ++ cs) = v.numbers ++ cs := by
    have hhead : ∀ c ∈ (v.numbers ++ cs).head?, isBlank c = false := by
      intro c hc
      rw [List.head?_append_of_ne_nil _ v.numbers_ne_nil] at hc
      exact (of_mem_numbers (List.mem_of_mem_head? hc)).1
    exact @trimStartChars_append [] _ hhead
  rw [trimChars, hstart]
  exact trimEndChars_append fun c hc => (of_mem_numbers (List.mem_of_mem_getLast? hc)).1

/-- Nothing that is written of a version begins its build data. -/
theorem plus_notMem (v : Version) (h : ∀ name ∈ pre?, '+' ∉ name.toList) :
    ∀ c ∈ v.numbers ++ dashed pre?, (c != '+') = true := by
  intro c hc
  rw [bne_iff_ne]
  rcases List.mem_append.mp hc with hc | hc
  · exact (of_mem_numbers hc).2.2
  · cases pre? with
    | none => cases hc
    | some name =>
      rcases List.mem_cons.mp hc with rfl | hc
      · decide
      · rintro rfl
        exact h name rfl hc

/-- A text with the numbers of a version is read as that version, but for the pre-release. -/
theorem ofText?_of_numbers (hv : v.IsRead)
    (hs : (trim s).toList.takeWhile (· != '+') = v.numbers ++ dashed pre?) :
    ofText? s = if pre? = some "" then none else some { v with preRelease := pre? } := by
  have hcore : ∀ c ∈ v.numbers, c ≠ '-' := fun c hc => (of_mem_numbers hc).2.1
  apply Option.ext
  intro w
  rw [ofText?_eq_some_iff hcore hs, mapM_component?_numbers hv]
  obtain ⟨major, minor, patch, preRelease⟩ := w
  split
  · rename_i hempty
    simp [hempty]
  · rename_i hempty
    simp only [hempty, ne_eq, not_false_eq_true, true_and, Option.some.injEq, mk.injEq,
      List.cons.injEq, and_true, eq_comm (a := preRelease), and_assoc]

/-- The blanks at the end of a name are lost, and a name of nothing else is no longer read. -/
theorem ofText?_render (hv : v.IsRead) :
    ofText? v.render = if v.preRelease.map trimEnd = some "" then none else
      some { v with preRelease := v.preRelease.map trimEnd } := by
  have hplus : ∀ name ∈ v.preRelease.map trimEnd, '+' ∉ name.toList := by
    intro name hname
    obtain ⟨written, hwritten, rfl⟩ := Option.mem_map.mp hname
    exact plus_notMem_trimEnd (hv.plus_notMem written hwritten)
  apply ofText?_of_numbers hv
  rw [trim, String.toList_ofList, toList_render, trimChars_numbers_append, trimEndChars_dashed,
    List.takeWhile_eq_self_iff]
  exact plus_notMem v hplus

/-- With a plus sign behind it no blank of a name is at the end. -/
theorem ofText?_render_plus (hv : v.IsRead) : ofText? (v.render ++ "+") = some v := by
  have hend : trimEndChars (dashed v.preRelease ++ ['+']) = dashed v.preRelease ++ ['+'] := by
    rw [trimEndChars_eq, List.rdropWhile_concat_neg _ _ _ (by decide)]
  have hplain := plus_notMem v hv.plus_notMem
  have hread : (trim (v.render ++ "+")).toList.takeWhile (· != '+') =
      v.numbers ++ dashed v.preRelease := by
    rw [trim, String.toList_ofList, String.toList_append, toList_render, List.append_assoc,
      trimChars_numbers_append]
    change List.takeWhile _ (v.numbers ++ trimEndChars (dashed v.preRelease ++ ['+'])) = _
    rw [hend, ← List.append_assoc, List.takeWhile_append_of_pos hplain]
    simp
  rw [ofText?_of_numbers hv hread, if_neg]
  exact fun hname => hv.name_ne "" hname rfl

/-- Reading checks the numbers and the name. -/
theorem isRead_of_ofText? (h : ofText? s = some v) : v.IsRead := by
  obtain ⟨core, pre?, hcore, ht⟩ :=
    exists_eq_append_dashed ((trim s).toList.takeWhile (· != '+'))
  obtain ⟨hne, hnumbers, rfl⟩ := (ofText?_eq_some_iff hcore ht).mp h
  rw [mapM_eq_some_iff] at hnumbers
  have hlt : ∀ n ∈ [v.major, v.minor, v.patch], n < Number.wordLimit := by
    intro n hn
    have hmem : some n ∈ (pieces '.' core).map component? := by
      rw [hnumbers]
      exact List.mem_map_of_mem hn
    obtain ⟨ds, -, hds⟩ := List.mem_map.mp hmem
    exact lt_of_component? hds
  simp only [List.forall_mem_cons] at hlt
  refine ⟨hlt.1, hlt.2.1, hlt.2.2.1, ?_, ?_⟩
  · rintro name hname rfl
    exact hne hname
  · intro name hname hplus
    have hmem : '+' ∈ (trim s).toList.takeWhile (· != '+') := by
      rw [ht, Option.mem_def.mp hname]
      exact List.mem_append_right _ (List.mem_cons_of_mem _ hplus)
    simpa using List.mem_takeWhile_imp hmem

/-- Without build data the text ends with the name. -/
theorem trimEnd_of_plus_notMem (h : ofText? s = some v) (hplus : '+' ∉ s.toList) :
    ∀ name ∈ v.preRelease, trimEnd name = name := by
  intro name hname
  obtain ⟨core, pre?, hcore, ht⟩ :=
    exists_eq_append_dashed ((trim s).toList.takeWhile (· != '+'))
  obtain ⟨-, -, rfl⟩ := (ofText?_eq_some_iff hcore ht).mp h
  have hall : (trim s).toList.takeWhile (· != '+') = (trim s).toList := by
    rw [List.takeWhile_eq_self_iff]
    intro c hc
    rw [bne_iff_ne]
    rintro rfl
    obtain ⟨bs, es, hs, -⟩ := exists_append_trimChars s.toList
    rw [trim, String.toList_ofList] at hc
    refine hplus ?_
    rw [hs]
    exact List.mem_append_left _ (List.mem_append_right _ hc)
  have htrim : trimEndChars (core ++ dashed v.preRelease) = core ++ dashed v.preRelease := by
    rw [← ht, hall, trim, String.toList_ofList, trimChars, trimEndChars_eq, trimEndChars_eq,
      List.rdropWhile_idempotent]
  rw [Option.mem_def.mp hname, dashed, trimEndChars_append_dash, List.append_cancel_left_eq,
    List.cons.injEq] at htrim
  rw [trimEnd, htrim.2, String.ofList_toList]

theorem ofText?_render_eq_iff (hv : v.IsRead) :
    ofText? v.render = some v ↔ ∀ name ∈ v.preRelease, trimEnd name = name := by
  rw [ofText?_render hv]
  obtain ⟨major, minor, patch, pre?⟩ := v
  cases pre? with
  | none => exact iff_of_true rfl nofun
  | some name =>
    have hne : name ≠ "" := hv.name_ne name rfl
    simp only [Option.map_some, Option.some.injEq, Option.mem_def, forall_eq']
    split
    · rename_i hempty
      rw [hempty]
      exact iff_of_false nofun hne.symm
    · simp

/-! ### Both ways -/

/-- A version that a text gives is read back as it was written exactly if the name of its
pre-release does not end in a blank: if the text has build data, such a name passes the check, and
written without them it loses the blank, or is refused as empty. With a plus sign behind it every
version is read back. -/
theorem ofText?_render_of_ofText? (h : ofText? s = some v) :
    (ofText? v.render = if v.preRelease.map trimEnd = some "" then none else
      some { v with preRelease := v.preRelease.map trimEnd }) ∧
    (ofText? v.render = some v ↔ ∀ name ∈ v.preRelease, trimEnd name = name) ∧
    ('+' ∉ s.toList → ofText? v.render = some v) ∧
    ofText? (v.render ++ "+") = some v := by
  have hv := isRead_of_ofText? h
  have hiff := ofText?_render_eq_iff hv
  exact ⟨ofText?_render hv, hiff, fun hplus => hiff.mpr (trimEnd_of_plus_notMem h hplus),
    ofText?_render_plus hv⟩

/-- A name with a dash, a point and blanks inside, and build data with a second plus sign. -/
theorem ofText?_render_of_ofText?_named :
    ofText? " 1.20.3- rc-2. x+b +7 " = some ⟨1, 20, 3, some " rc-2. x"⟩ ∧
    render ⟨1, 20, 3, some " rc-2. x"⟩ = "1.20.3- rc-2. x" ∧
    ofText? "1.20.3- rc-2. x" = some ⟨1, 20, 3, some " rc-2. x"⟩ := by
  have hread : ofText? " 1.20.3- rc-2. x+b +7 " = some ⟨1, 20, 3, some " rc-2. x"⟩ := rfl
  have hback := (ofText?_render_of_ofText? hread).2.1.mpr (by rintro name ⟨⟩; rfl)
  exact ⟨hread, rfl, hback⟩

/-- Blanks in front of the build data: one version is read back as another, and one is not read
back at all. -/
theorem ofText?_render_ne_blank :
    ofText? "1.2.3-rc +7" = some ⟨1, 2, 3, some "rc "⟩ ∧
    ofText? (render ⟨1, 2, 3, some "rc "⟩) = some ⟨1, 2, 3, some "rc"⟩ ∧
    ofText? "1.2.3- +7" = some ⟨1, 2, 3, some " "⟩ ∧
    ofText? (render ⟨1, 2, 3, some " "⟩) = none :=
  ⟨rfl, rfl, rfl, rfl⟩

end Policy.Version

end Mentorship
