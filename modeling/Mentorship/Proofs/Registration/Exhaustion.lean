import Mathlib.Data.Finset.Max
import Mentorship.Proofs.Registration.NoReissue
import Mentorship.Proofs.Registration.Recording
import Mentorship.Proofs.Registration.RowOrder

/-! How an assignment ends. It runs out of sequences exactly if the free ones of some gender are
fewer than its newcomers, and it then names the gender of the first newcomer, by national id, who
finds none. Otherwise it is refused exactly if two students are due one text, and else it succeeds
with new ids of sequences from one on. -/

namespace Mentorship.Registration

open Policy (Gender)

/-! ### Newcomers in order -/

section Newcomers
variable {roster : List Entry} {prior : Prior} {g g' : Gender} {x : NationalId}

theorem find?_eq_none_of_mem_newcomers (hx : x ∈ newcomers roster prior g) :
    prior.find? x = none := by
  simp only [newcomers, Finset.mem_filter] at hx
  exact hx.2.1

/-- The row by which a newcomer is counted, which repeats none. -/
theorem exists_row_of_mem_newcomers (hx : x ∈ newcomers roster prior g) :
    ∃ u : Entry × Nat, roster[u.2]? = some u.1 ∧ isRepeat roster u = false ∧
      u.1.nationalId = x ∧ u.1.gender = g := by
  simp only [newcomers, Finset.mem_filter, Option.map_eq_some_iff] at hx
  obtain ⟨-, -, e, he, hg⟩ := hx
  obtain ⟨i, hget, hfirst, hid⟩ := exists_of_firstRow? he
  exact ⟨(e, i), hget, hfirst, hid, hg⟩

/-- A newcomer is one of a single gender. -/
theorem gender_eq_of_mem_newcomers (hx : x ∈ newcomers roster prior g)
    (hx' : x ∈ newcomers roster prior g') : g = g' := by
  simp only [newcomers, Finset.mem_filter] at hx hx'
  have hsame := hx.2.2.symm.trans hx'.2.2
  exact Option.some.inj hsame

theorem newcomersBelow_lt_card (hx : x ∈ newcomers roster prior g) :
    newcomersBelow roster prior g x < (newcomers roster prior g).card := by
  apply Finset.card_lt_card
  rw [Finset.filter_ssubset]
  exact ⟨x, hx, Nat.lt_irrefl _⟩

/-- The newcomer with the greatest number has all others below. -/
theorem exists_newcomersBelow_add_one (h : (newcomers roster prior g).Nonempty) :
    ∃ x ∈ newcomers roster prior g,
      newcomersBelow roster prior g x + 1 = (newcomers roster prior g).card := by
  obtain ⟨x, hx, hmax⟩ := Finset.exists_max_image _ (fun x => x.number) h
  refine ⟨x, hx, ?_⟩
  have hothers : (newcomers roster prior g).filter (·.number < x.number) =
      (newcomers roster prior g).erase x := by
    ext y
    rw [Finset.mem_filter, Finset.mem_erase]
    constructor
    · rintro ⟨hy, hlt⟩
      refine ⟨?_, hy⟩
      rintro rfl
      omega
    · rintro ⟨hne, hy⟩
      refine ⟨hy, Nat.lt_of_le_of_ne (hmax y hy) fun heq => hne ?_⟩
      exact NationalId.eq_of_number_eq heq
  rw [newcomersBelow, hothers, Finset.card_erase_add_one hx]

end Newcomers

namespace Assigner

/-! ### Newcomers without a sequence -/

section RunsOut
variable (a : Assigner) (roster : List Entry) (prior : Prior) (current : List String)

/-- Whether a student is a newcomer of a gender for whom no sequence of four digits is left. -/
def RunsOut (g : Gender) (x : NationalId) : Prop :=
  x ∈ newcomers roster prior g ∧
    Id.greatestSequence < a.firstFree current g + newcomersBelow roster prior g x

/-- Whether a student is the first of all, by national id, for whom none is left. -/
def IsFirstToRunOut (g : Gender) (x : NationalId) : Prop :=
  a.RunsOut roster prior current g x ∧
    ∀ g' y, a.RunsOut roster prior current g' y → x.number ≤ y.number

variable {a roster prior current}
variable {g g' : Gender} {x y : NationalId} {u : Entry × Nat}

theorem one_le_firstFree : 1 ≤ a.firstFree current g := by
  rw [firstFree]
  cases (a.issued current g).max? with
  | none => exact Nat.le_refl 1
  | some n => exact Nat.le_add_left 1 n

/-- Issued sequences have four digits, so at most the next one after them is free. -/
theorem firstFree_le : a.firstFree current g ≤ Id.greatestSequence + 1 := by
  rw [firstFree]
  cases hmax : (a.issued current g).max? with
  | none => decide
  | some n =>
    have hn := (List.max?_eq_some_iff.mp hmax).1
    simp only [issued, List.mem_map, List.mem_filter, List.mem_filterMap] at hn
    obtain ⟨x, ⟨⟨s, -, hread⟩, -⟩, rfl⟩ := hn
    exact (Id.render_of_ofText? hread).1.sequence

/-- Some newcomer of a gender finds no sequence exactly if there are more than are free. -/
theorem exists_runsOut_iff :
    (∃ x, a.RunsOut roster prior current g x) ↔
      Id.greatestSequence + 1 < a.firstFree current g + (newcomers roster prior g).card := by
  constructor
  · rintro ⟨x, hx, hlt⟩
    have := newcomersBelow_lt_card hx
    omega
  · intro hlt
    have hle : a.firstFree current g ≤ Id.greatestSequence + 1 := firstFree_le
    have hpos : 0 < (newcomers roster prior g).card := by omega
    obtain ⟨x, hx, hcard⟩ := exists_newcomersBelow_add_one (Finset.card_pos.mp hpos)
    exact ⟨x, hx, by omega⟩

theorem forall_not_runsOut_iff :
    (∀ g x, ¬a.RunsOut roster prior current g x) ↔
      ∀ g, a.firstFree current g + (newcomers roster prior g).card ≤ Id.greatestSequence + 1 := by
  simp only [← not_exists, exists_runsOut_iff, Nat.not_lt]

/-- A row does not fit exactly if it is the first of a newcomer for whom no sequence is left. -/
theorem not_fits_iff (hu : roster[u.2]? = some u.1) :
    ¬a.Fits roster prior current u ↔
      isRepeat roster u = false ∧ a.RunsOut roster prior current u.1.gender u.1.nationalId := by
  rw [Fits, Classical.not_imp, originOf_eq_minted_iff, Nat.not_le, sequenceOf]
  constructor
  · rintro ⟨⟨hfirst, hp⟩, hlt⟩
    have hnew := mem_newcomers (List.mem_of_getElem? hu) hp
    rw [firstGender_of_not_isRepeat hu hfirst] at hnew hlt
    exact ⟨hfirst, hnew, hlt⟩
  · rintro ⟨hfirst, hnew, hlt⟩
    rw [firstGender_of_not_isRepeat hu hfirst]
    exact ⟨⟨hfirst, find?_eq_none_of_mem_newcomers hnew⟩, hlt⟩

/-- Every newcomer for whom no sequence is left has a row that does not fit. -/
theorem exists_not_fits (hx : a.RunsOut roster prior current g x) :
    ∃ u : Entry × Nat, u ∈ visitOrder roster ∧ u.1.nationalId = x ∧
      ¬a.Fits roster prior current u := by
  obtain ⟨u, hget, hfirst, rfl, rfl⟩ := exists_row_of_mem_newcomers hx.1
  exact ⟨u, mem_visitOrder.mpr hget, rfl, (not_fits_iff hget).mpr ⟨hfirst, hx⟩⟩

/-- The first row served that does not fit is that of the first student to run out. -/
theorem isFirstToRunOut_of_find?
    (h : (visitOrder roster).find? (fun v => !decide (a.Fits roster prior current v)) = some u) :
    a.IsFirstToRunOut roster prior current u.1.gender u.1.nationalId := by
  rw [List.find?_eq_some_iff_append] at h
  obtain ⟨hu, before, after, hv, hbefore⟩ := h
  have hget := getElem?_of_visitOrder hv
  refine ⟨((not_fits_iff hget).mp (by simpa using hu)).2, fun g' y hy => ?_⟩
  obtain ⟨v, hmem, rfl, hfit⟩ := exists_not_fits hy
  rw [hv] at hmem
  rcases List.mem_append.mp hmem with hmem | hmem
  · exact absurd (hbefore v hmem) (by simpa using hfit)
  · rcases List.mem_cons.mp hmem with rfl | hmem
    · exact Nat.le_refl _
    · have hpair := visitOrder_pairwise roster
      rw [hv, List.pairwise_append, List.pairwise_cons] at hpair
      rcases hpair.2.1.1 v hmem with hlt | ⟨hid, -⟩
      · exact Nat.le_of_lt hlt
      · rw [hid]

/-- There is one first student to run out, of one gender. -/
theorem IsFirstToRunOut.gender_eq (hx : a.IsFirstToRunOut roster prior current g x)
    (hy : a.IsFirstToRunOut roster prior current g' y) : g = g' := by
  have hnumber : x.number = y.number := Nat.le_antisymm (hx.2 g' y hy.1) (hy.2 g x hx.1)
  have hsame := NationalId.eq_of_number_eq hnumber
  subst hsame
  exact gender_eq_of_mem_newcomers hx.1.1 hy.1.1

end RunsOut

/-! ### The ends of a run -/

section Ends
variable {a : Assigner} {roster : List Entry} {prior : Prior} {current : List String}

/-- What is due passes the check exactly if no two students are due one text. -/
theorem ensureUnique_due_iff :
    ensureUnique (a.due roster prior current).assignments = .ok () ↔
      ∀ e ∈ roster, ∀ f ∈ roster,
        a.idOf roster prior current e = a.idOf roster prior current f →
          e.nationalId = f.nationalId := by
  rw [ensureUnique_eq_ok_iff]
  constructor
  · intro h e he f hf hid
    obtain ⟨u, hu, hue, huid⟩ := exists_mem_due a prior current he
    obtain ⟨v, hv, hvf, hvid⟩ := exists_mem_due a prior current hf
    rw [← hue, ← hvf]
    exact h u hu v hv (by rw [huid, hvid, hid])
  · intro h u hu v hv hid
    obtain ⟨e, he, hue, huid⟩ := exists_of_mem_due hu
    obtain ⟨f, hf, hvf, hvid⟩ := exists_of_mem_due hv
    rw [← hue, ← hvf]
    exact h e he f hf (by rw [← huid, ← hvid, hid])

variable (a roster prior current) in
/-- A run ends at the first student to run out, or else with the check of what is due. -/
theorem assign_cases :
    (∃ g x, a.IsFirstToRunOut roster prior current g x ∧
      a.assign roster prior current = .error (.sequenceOverflow g)) ∨
    (∀ g x, ¬a.RunsOut roster prior current g x) ∧
      (ensureUnique (a.due roster prior current).assignments = .ok () ∧
        a.assign roster prior current = .ok (a.due roster prior current) ∨
      ∃ cs, ensureUnique (a.due roster prior current).assignments = .error (.sharedIds cs) ∧
        a.assign roster prior current = .error (.sharedIds cs)) := by
  cases h : (visitOrder roster).find? fun v => !decide (a.Fits roster prior current v) with
  | some u => exact .inl ⟨_, _, isFirstToRunOut_of_find? h, assign_of_not_fits h⟩
  | none =>
    have hfit : ∀ u ∈ visitOrder roster, a.Fits roster prior current u := by
      simpa [List.find?_eq_none] using h
    have hassign := assign_of_fits fun u hu => hfit u ((visitOrder_perm roster).mem_iff.mpr hu)
    refine .inr ⟨fun g x hx => ?_, ?_⟩
    · obtain ⟨u, hu, -, hnot⟩ := exists_not_fits hx
      exact hnot (hfit u hu)
    · rcases ensureUnique_cases (a.due roster prior current).assignments with hok | ⟨cs, herror⟩
      · exact .inl ⟨hok, by rw [hassign, hok]; rfl⟩
      · exact .inr ⟨cs, herror, by rw [hassign, herror]; rfl⟩

theorem assign_eq_overflow_iff {g : Gender} :
    a.assign roster prior current = .error (.sequenceOverflow g) ↔
      ∃ x, a.IsFirstToRunOut roster prior current g x := by
  rcases assign_cases a roster prior current with ⟨g', x, hx, h⟩ | ⟨hnone, ⟨-, h⟩ | ⟨cs, -, h⟩⟩ <;>
    rw [h]
  · constructor
    · intro heq
      cases heq
      exact ⟨x, hx⟩
    · rintro ⟨y, hy⟩
      rw [hx.gender_eq hy]
  all_goals exact ⟨nofun, fun ⟨x, hx⟩ => absurd hx.1 (hnone g x)⟩

theorem exists_overflow_iff :
    (∃ g, a.assign roster prior current = .error (.sequenceOverflow g)) ↔
      ∃ g x, a.RunsOut roster prior current g x := by
  constructor
  · rintro ⟨g, h⟩
    obtain ⟨x, hx⟩ := assign_eq_overflow_iff.mp h
    exact ⟨g, x, hx.1⟩
  · rintro ⟨g, x, hx⟩
    rcases assign_cases a roster prior current with ⟨g', -, -, h⟩ | ⟨hnone, -⟩
    · exact ⟨g', h⟩
    · exact absurd hx (hnone g x)

theorem exists_sharedIds_iff :
    (∃ cs, a.assign roster prior current = .error (.sharedIds cs)) ↔
      (∀ g x, ¬a.RunsOut roster prior current g x) ∧
        ensureUnique (a.due roster prior current).assignments ≠ .ok () := by
  rcases assign_cases a roster prior current with ⟨g, x, hx, h⟩ |
    ⟨hnone, ⟨hok, h⟩ | ⟨cs, hcs, h⟩⟩ <;> rw [h]
  · exact ⟨nofun, fun hnone => absurd hx.1 (hnone.1 g x)⟩
  · exact ⟨nofun, fun hnot => absurd hok hnot.2⟩
  · exact ⟨fun _ => ⟨hnone, by simp [hcs]⟩, fun _ => ⟨cs, rfl⟩⟩

theorem exists_ok_iff :
    (∃ issue, a.assign roster prior current = .ok issue) ↔
      (∀ g x, ¬a.RunsOut roster prior current g x) ∧
        ensureUnique (a.due roster prior current).assignments = .ok () := by
  rcases assign_cases a roster prior current with ⟨g, x, hx, h⟩ |
    ⟨hnone, ⟨hok, h⟩ | ⟨cs, hcs, h⟩⟩ <;> rw [h]
  · exact ⟨nofun, fun hnone => absurd hx.1 (hnone.1 g x)⟩
  · exact ⟨fun _ => ⟨hnone, hok⟩, fun _ => ⟨_, rfl⟩⟩
  · exact ⟨nofun, fun hnot => by simp [hcs] at hnot⟩

/-- A new id is written with a sequence from one on that has four digits. -/
theorem exists_sequence_of_minted {issue : Issue} {u : Assignment}
    (h : a.assign roster prior current = .ok issue) (hu : u ∈ issue.assignments)
    (hminted : u.origin = .minted) :
    ∃ n, 1 ≤ n ∧ n ≤ Id.greatestSequence ∧
      u.id = Id.render ⟨a.year, a.codes.code u.gender, n⟩ := by
  have hfits := fits_of_assign h
  rw [eq_due_of_assign h, due, List.mem_map] at hu
  obtain ⟨w, hw, rfl⟩ := hu
  obtain ⟨hfirst, hp⟩ := originOf_eq_minted_iff.mp hminted
  have hgender := firstGender_of_not_isRepeat (List.mem_zipIdx_iff_getElem?.mp hw) hfirst
  refine ⟨a.sequenceOf roster prior current w.1, ?_, hfits w hw hminted, ?_⟩
  · exact one_le_firstFree.trans (Nat.le_add_right _ _)
  · simp only [expected, idOf, hp, Option.getD_none, hgender]

variable (a roster prior current)

/-- A run runs out of sequences exactly if some gender has more newcomers than are free, and it
names the gender of the first newcomer, by national id, for whom none is left. Otherwise it is
refused exactly if two students are due one text, and else it succeeds; every new id then has a
sequence from one to the greatest. -/
theorem assign_ends :
    ((∃ g, a.assign roster prior current = .error (.sequenceOverflow g)) ↔
      ∃ g, Id.greatestSequence + 1 <
        a.firstFree current g + (newcomers roster prior g).card) ∧
    (∀ g, a.assign roster prior current = .error (.sequenceOverflow g) ↔
      ∃ x, a.IsFirstToRunOut roster prior current g x) ∧
    ((∃ cs, a.assign roster prior current = .error (.sharedIds cs)) ↔
      (∀ g, a.firstFree current g + (newcomers roster prior g).card ≤ Id.greatestSequence + 1) ∧
        ∃ e ∈ roster, ∃ f ∈ roster, e.nationalId ≠ f.nationalId ∧
          a.idOf roster prior current e = a.idOf roster prior current f) ∧
    ((∃ issue, a.assign roster prior current = .ok issue) ↔
      (∀ g, a.firstFree current g + (newcomers roster prior g).card ≤ Id.greatestSequence + 1) ∧
        ∀ e ∈ roster, ∀ f ∈ roster,
          a.idOf roster prior current e = a.idOf roster prior current f →
            e.nationalId = f.nationalId) ∧
    ∀ issue, a.assign roster prior current = .ok issue →
      ∀ u ∈ issue.assignments, u.origin = .minted →
        ∃ n, 1 ≤ n ∧ n ≤ Id.greatestSequence ∧
          u.id = Id.render ⟨a.year, a.codes.code u.gender, n⟩ := by
  refine ⟨?_, fun g => assign_eq_overflow_iff, ?_, ?_,
    fun issue h u => exists_sequence_of_minted h⟩
  · rw [exists_overflow_iff]
    exact exists_congr fun g => exists_runsOut_iff
  · rw [exists_sharedIds_iff, forall_not_runsOut_iff, Ne, ensureUnique_due_iff]
    simp only [not_forall, exists_prop, and_comm, ne_eq]
  · rw [exists_ok_iff, forall_not_runsOut_iff, ensureUnique_due_iff]

end Ends

/-- Of two newcomers of one gender the second runs out if one sequence is left, and none if two
are. -/
theorem assign_ends_lastSequences :
    (newcomers relisted heldIds .female).card = 2 ∧
    of1404.firstFree ["543739998"] .female = 9999 ∧
    of1404.assign relisted heldIds ["543739998"] = .error (.sequenceOverflow .female) ∧
    of1404.firstFree ["543739997"] .female = 9998 ∧
    ∃ issue, of1404.assign relisted heldIds ["543739997"] = .ok issue := by
  have hcard : (newcomers relisted heldIds .female).card = 2 := by decide
  have hmale : newcomers relisted heldIds .male = ∅ := by decide
  have hone : of1404.firstFree ["543739998"] .female = 9999 := by decide
  have htwo : of1404.firstFree ["543739997"] .female = 9998 := by decide
  obtain ⟨hover, hnames, -⟩ := assign_ends of1404 relisted heldIds ["543739998"]
  obtain ⟨-, -, -, hok, -⟩ := assign_ends of1404 relisted heldIds ["543739997"]
  obtain ⟨g, hg⟩ := hover.mpr ⟨.female, by rw [hone, hcard]; decide⟩
  refine ⟨hcard, hone, ?_, htwo, hok.mpr ⟨fun g => ?_, by decide⟩⟩
  · obtain ⟨x, hx⟩ := (hnames g).mp hg
    cases g with
    | female => exact hg
    | male => simpa [hmale] using hx.1.1
  · cases g with
    | female => rw [htwo, hcard]; decide
    | male => rw [hmale]; decide

end Assigner

end Mentorship.Registration
