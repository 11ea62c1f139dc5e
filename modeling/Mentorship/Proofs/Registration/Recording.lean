import Mentorship.Proofs.Registration.IdText
import Mentorship.Proofs.Registration.Issuing
import Mentorship.Proofs.Registration.Uniqueness
import Mentorship.Registration.History

/-! Ids on record. A run that records what it issues keeps every id on record and adds those of the
newcomers. If no two students had one id before and no id was one of the run's year, no two have one
id after it: ids of newcomers differ from one another in the gender or in the number of newcomers
below, and from those on record in the year. -/

namespace Mentorship.Registration

open Policy (Gender GenderCodes)

/-! ### Putting ids on record -/

namespace Prior

variable {prior : Prior} {x y : NationalId} {id : String} {as : List Assignment}

/-- Students who get no id keep what is on record. -/
theorem find?_putAll_of_forall_ne (h : ∀ u ∈ as, u.nationalId ≠ x) :
    (prior.putAll as).find? x = prior.find? x := by
  induction as generalizing prior with
  | nil => rfl
  | cons u as ih =>
    rw [List.forall_mem_cons] at h
    rw [putAll, List.foldl_cons, ← putAll, ih h.2, Dictionary.find?_insert, if_neg h.1.symm]

/-- A student who gets an id, and the same each time, has it on record. -/
theorem find?_putAll_of_exists (hx : ∃ u ∈ as, u.nationalId = x)
    (h : ∀ u ∈ as, u.nationalId = x → u.id = id) : (prior.putAll as).find? x = some id := by
  induction as generalizing prior with
  | nil => simp at hx
  | cons u as ih =>
    rw [List.forall_mem_cons] at h
    rw [putAll, List.foldl_cons, ← putAll]
    by_cases hlater : ∃ v ∈ as, v.nationalId = x
    · exact ih hlater h.2
    · have hnone : ∀ v ∈ as, v.nationalId ≠ x := fun v hv hid => hlater ⟨v, hv, hid⟩
      have hlast : u.nationalId = x := by
        obtain ⟨v, hv, hid⟩ := hx
        rcases List.mem_cons.mp hv with rfl | hv
        · exact hid
        · exact absurd hid (hnone v hv)
      rw [find?_putAll_of_forall_ne hnone, Dictionary.find?_insert, if_pos hlast.symm, h.1 hlast]

end Prior

/-! ### Newcomers -/

section Newcomers
variable {roster : List Entry} {prior : Prior} {e : Entry} {g : Gender} {x y : NationalId}

theorem exists_firstRow? (he : e ∈ roster) :
    ∃ f i, firstRow? roster e.nationalId = some f ∧ roster[i]? = some f ∧
      isRepeat roster (f, i) = false ∧ f.nationalId = e.nationalId := by
  have hsome : (firstRow? roster e.nationalId).isSome = true := by
    rw [firstRow?, List.find?_isSome]
    exact ⟨e, he, beq_self_eq_true _⟩
  obtain ⟨f, hf⟩ := Option.isSome_iff_exists.mp hsome
  obtain ⟨i, hget, hfirst, hid⟩ := exists_of_firstRow? hf
  exact ⟨f, i, hf, hget, hfirst, hid⟩

/-- A student without an id on record is a newcomer of the gender of the first row. -/
theorem mem_newcomers (he : e ∈ roster) (hp : prior.find? e.nationalId = none) :
    e.nationalId ∈ newcomers roster prior (firstGender roster e) := by
  obtain ⟨f, i, hf, -, -, -⟩ := exists_firstRow? he
  simp only [newcomers, Finset.mem_filter, List.mem_toFinset]
  refine ⟨List.mem_map_of_mem he, hp, ?_⟩
  rw [firstGender, hf, Option.map_some, Option.getD_some]

theorem newcomersBelow_lt (hx : x ∈ newcomers roster prior g) (h : x.number < y.number) :
    newcomersBelow roster prior g x < newcomersBelow roster prior g y := by
  apply Finset.card_lt_card
  rw [Finset.ssubset_iff_of_subset]
  · exact ⟨x, Finset.mem_filter.mpr ⟨hx, h⟩, by simp⟩
  · intro z hz
    rw [Finset.mem_filter] at hz ⊢
    exact ⟨hz.1, hz.2.trans h⟩

/-- Newcomers of one gender with as many newcomers below are one. -/
theorem eq_of_newcomersBelow_eq (hx : x ∈ newcomers roster prior g)
    (hy : y ∈ newcomers roster prior g)
    (h : newcomersBelow roster prior g x = newcomersBelow roster prior g y) : x = y := by
  rcases Nat.lt_trichotomy x.number y.number with hlt | heq | hlt
  · have := newcomersBelow_lt hx hlt
    omega
  · exact NationalId.eq_of_number_eq heq
  · have := newcomersBelow_lt hy hlt
    omega

end Newcomers

/-! ### Ids of newcomers -/

namespace Assigner

/-- The parts of the ids that an assigner writes have their digits, and the codes of the genders
differ. -/
structure InOrder (a : Assigner) : Prop where
  year : a.year < 10 ^ 2
  code : ∀ g, a.codes.code g < 10 ^ 3
  code_injective : ∀ g g', a.codes.code g = a.codes.code g' → g = g'

section Newcomers
variable {a : Assigner} {roster : List Entry} {prior : Prior} {current : List String}
variable {e e' : Entry}

/-- The id of a newcomer. -/
def newId (a : Assigner) (roster : List Entry) (prior : Prior) (current : List String)
    (e : Entry) : Id :=
  ⟨a.year, a.codes.code (firstGender roster e), a.sequenceOf roster prior current e⟩

theorem idOf_of_find?_eq_some {id : String} (hp : prior.find? e.nationalId = some id) :
    a.idOf roster prior current e = id := by
  rw [idOf, hp, Option.getD_some]

theorem idOf_of_find?_eq_none (hp : prior.find? e.nationalId = none) :
    a.idOf roster prior current e = (a.newId roster prior current e).render := by
  rw [idOf, hp, Option.getD_none, newId]

/-- If the rows fit, the id of every newcomer has nine digits: that of a row listed again is that of
the first row. -/
theorem nineDigits_newId (ha : a.InOrder)
    (hfit : ∀ u ∈ roster.zipIdx, a.Fits roster prior current u) (he : e ∈ roster)
    (hp : prior.find? e.nationalId = none) : (a.newId roster prior current e).NineDigits := by
  obtain ⟨f, i, -, hget, hfirst, hid⟩ := exists_firstRow? he
  have hminted : originOf roster prior (f, i) = .minted :=
    originOf_eq_minted_iff.mpr ⟨hfirst, hid.symm ▸ hp⟩
  have hle := hfit (f, i) (List.mem_zipIdx_iff_getElem?.mpr hget) hminted
  have hsequence : a.sequenceOf roster prior current e = a.sequenceOf roster prior current f := by
    rw [sequenceOf, sequenceOf, firstGender_congr he hid.symm, hid]
  refine ⟨ha.year, ha.code _, ?_⟩
  rw [newId, hsequence]
  exact Nat.lt_succ_of_le hle

/-- Different newcomers have different ids. -/
theorem eq_of_newId_eq (ha : a.InOrder) (he : e ∈ roster) (he' : e' ∈ roster)
    (hp : prior.find? e.nationalId = none) (hp' : prior.find? e'.nationalId = none)
    (h : a.newId roster prior current e = a.newId roster prior current e') :
    e.nationalId = e'.nationalId := by
  simp only [newId, Id.mk.injEq, true_and] at h
  obtain ⟨hcode, hsequence⟩ := h
  have hgender := ha.code_injective _ _ hcode
  have hnew := mem_newcomers he hp
  have hnew' := mem_newcomers he' hp'
  simp only [sequenceOf, hgender] at hsequence hnew
  exact eq_of_newcomersBelow_eq hnew hnew' (Nat.add_left_cancel hsequence)

end Newcomers

/-! ### After a run -/

section Recorded
variable {a : Assigner} {roster : List Entry} {prior : Prior} {current : List String}
variable {x : NationalId} {id : String}

/-- Whatever is due is due to somebody listed. -/
theorem exists_of_mem_due {u : Assignment} (hu : u ∈ (a.due roster prior current).assignments) :
    ∃ e ∈ roster, e.nationalId = u.nationalId ∧ u.id = a.idOf roster prior current e := by
  obtain ⟨w, hw, rfl⟩ := List.mem_map.mp hu
  rw [List.mem_zipIdx_iff_getElem?] at hw
  exact ⟨w.1, List.mem_of_getElem? hw, rfl, rfl⟩

variable (a prior current) in
/-- Everybody listed is due something. -/
theorem exists_mem_due {e : Entry} (he : e ∈ roster) :
    ∃ u ∈ (a.due roster prior current).assignments,
      u.nationalId = e.nationalId ∧ u.id = a.idOf roster prior current e := by
  obtain ⟨i, hi⟩ := List.mem_iff_getElem?.mp he
  exact ⟨_, List.mem_map_of_mem (List.mem_zipIdx_iff_getElem? (x := (e, i)) |>.mpr hi), rfl, rfl⟩

theorem find?_putAll_due_of_mem {e : Entry} (he : e ∈ roster) :
    (prior.putAll (a.due roster prior current).assignments).find? e.nationalId =
      some (a.idOf roster prior current e) := by
  obtain ⟨u, hu, hid, -⟩ := exists_mem_due a prior current he
  refine Prior.find?_putAll_of_exists ⟨u, hu, hid⟩ fun v hv hid => ?_
  obtain ⟨f, hf, hsame, heq⟩ := exists_of_mem_due hv
  rw [heq]
  exact idOf_congr a roster prior current hf (hsame.trans hid)

/-- Everything that is due is on record then. -/
theorem find?_putAll_due {u : Assignment} (hu : u ∈ (a.due roster prior current).assignments) :
    (prior.putAll (a.due roster prior current).assignments).find? u.nationalId = some u.id := by
  obtain ⟨e, he, hsame, heq⟩ := exists_of_mem_due hu
  rw [← hsame, heq]
  exact find?_putAll_due_of_mem he

/-- What is on record after a run: what was there before, and the ids of newcomers. -/
theorem find?_putAll_due_eq_some_iff :
    (prior.putAll (a.due roster prior current).assignments).find? x = some id ↔
      prior.find? x = some id ∨
        prior.find? x = none ∧ ∃ e ∈ roster, e.nationalId = x ∧
          (a.newId roster prior current e).render = id := by
  by_cases hlisted : ∃ e ∈ roster, e.nationalId = x
  · obtain ⟨e, he, rfl⟩ := hlisted
    rw [find?_putAll_due_of_mem he, Option.some.injEq]
    cases hp : prior.find? e.nationalId with
    | some id' => simp [idOf_of_find?_eq_some hp]
    | none =>
      have hsame : ∀ f ∈ roster, f.nationalId = e.nationalId →
          (a.newId roster prior current f).render = a.idOf roster prior current e := by
        intro f hf hid
        rw [← idOf_of_find?_eq_none (hid.symm ▸ hp)]
        exact idOf_congr a roster prior current hf hid
      constructor
      · rintro rfl
        exact .inr ⟨rfl, e, he, rfl, hsame e he rfl⟩
      · rintro (hsome | ⟨-, f, hf, hid, rfl⟩)
        · cases hsome
        · exact (hsame f hf hid).symm
  · have hnone : ∀ u ∈ (a.due roster prior current).assignments, u.nationalId ≠ x := by
      intro u hu hid
      obtain ⟨e, he, hsame, -⟩ := exists_of_mem_due hu
      exact hlisted ⟨e, he, hsame.trans hid⟩
    rw [Prior.find?_putAll_of_forall_ne hnone]
    constructor
    · exact .inl
    · rintro (hsome | ⟨-, e, he, hid, -⟩)
      · exact hsome
      · exact absurd ⟨e, he, hid⟩ hlisted

end Recorded

end Assigner

namespace Prior

/-- No two students have one id. -/
def IsInjective (prior : Prior) : Prop :=
  ∀ x y id, prior.find? x = some id → prior.find? y = some id → x = y

/-- No id on record is written as one of a year, given by its two digits. -/
def IsFreeOf (prior : Prior) (year : Nat) : Prop :=
  ∀ x id, prior.find? x = some id → ∀ n : Id, n.NineDigits → n.year = year → id ≠ n.render

section Recorded
variable {a : Assigner} {roster : List Entry} {prior : Prior} {current : List String}
variable (ha : a.InOrder)
variable (hfit : ∀ u ∈ roster.zipIdx, a.Fits roster prior current u)

include ha hfit in
/-- Ids of newcomers are shared neither among themselves nor with those on record. -/
theorem IsInjective.putAll_due (hinj : prior.IsInjective) (hfree : prior.IsFreeOf a.year) :
    (prior.putAll (a.due roster prior current).assignments).IsInjective := by
  intro x y id hx hy
  rw [Assigner.find?_putAll_due_eq_some_iff] at hx hy
  rcases hx with hx | ⟨hpx, e, he, rfl, rfl⟩ <;> rcases hy with hy | ⟨hpy, f, hf, rfl, hid⟩
  · exact hinj x y id hx hy
  · exact absurd hid.symm
      (hfree x id hx _ (Assigner.nineDigits_newId ha hfit hf hpy) rfl)
  · exact absurd rfl (hfree y _ hy _ (Assigner.nineDigits_newId ha hfit he hpx) rfl)
  · have hnew := Id.eq_of_render_eq (Assigner.nineDigits_newId ha hfit hf hpy)
      (Assigner.nineDigits_newId ha hfit he hpx) hid
    exact (Assigner.eq_of_newId_eq ha hf he hpy hpx hnew).symm

include ha hfit in
/-- A run adds ids of its own year only. -/
theorem IsFreeOf.putAll_due {year : Nat} (hfree : prior.IsFreeOf year) (hne : a.year ≠ year) :
    (prior.putAll (a.due roster prior current).assignments).IsFreeOf year := by
  intro x id hx n hn hyear
  rcases Assigner.find?_putAll_due_eq_some_iff.mp hx with hx | ⟨hp, e, he, rfl, rfl⟩
  · exact hfree x id hx n hn hyear
  · intro hid
    have hsame := Id.eq_of_render_eq (Assigner.nineDigits_newId ha hfit he hp) hn hid
    exact hne ((congrArg Id.year hsame).trans hyear)

include ha hfit in
/-- What is due then passes the check of clashes. -/
theorem IsInjective.ensureUnique_due (hinj : prior.IsInjective) (hfree : prior.IsFreeOf a.year) :
    ensureUnique (a.due roster prior current).assignments = .ok () := by
  rw [ensureUnique_eq_ok_iff]
  intro u hu v hv hid
  have hv' := Assigner.find?_putAll_due hv
  rw [← hid] at hv'
  exact hinj.putAll_due ha hfit hfree _ _ _ (Assigner.find?_putAll_due hu) hv'

end Recorded

end Prior

end Mentorship.Registration
