import Mentorship.Proofs.Registration.Recording

/-! Rosters that are run again. Where every student has an id on record, no row needs a new one: a
run gives what is on record, whatever its year and the ids issued already, and succeeds as long as
no two students have one id there. After a run whose ids went on record, all its students do. -/

namespace Mentorship.Registration

open Policy (Gender)

/-- Whether every student of a roster has an id on record, no two of them the same. -/
structure OnRecord (roster : List Entry) (prior : Prior) : Prop where
  isSome : ∀ e ∈ roster, (prior.find? e.nationalId).isSome = true
  injective : ∀ e ∈ roster, ∀ f ∈ roster,
    prior.find? e.nationalId = prior.find? f.nationalId → e.nationalId = f.nationalId

theorem OnRecord.of_perm {roster roster' : List Entry} {prior : Prior} (h : OnRecord roster prior)
    (hperm : roster'.Perm roster) : OnRecord roster' prior where
  isSome e he := h.isSome e (hperm.mem_iff.mp he)
  injective e he f hf := h.injective e (hperm.mem_iff.mp he) f (hperm.mem_iff.mp hf)

namespace Assigner

/-! ### Students on record -/

section OnRecord
variable {a : Assigner} {roster : List Entry} {prior : Prior} {current : List String}
variable (hrecord : OnRecord roster prior)

include hrecord in
theorem originOf_ne_minted {u : Entry × Nat} (hu : u ∈ roster.zipIdx) :
    originOf roster prior u ≠ .minted := by
  intro hminted
  have hsome := hrecord.isSome u.1 (List.mem_of_getElem? (List.mem_zipIdx_iff_getElem?.mp hu))
  rw [(originOf_eq_minted_iff.mp hminted).2] at hsome
  cases hsome

include hrecord in
/-- What is due is on record. -/
theorem find?_of_mem_due {u : Assignment} (hu : u ∈ (a.due roster prior current).assignments) :
    prior.find? u.nationalId = some u.id := by
  obtain ⟨e, he, hsame, hid⟩ := exists_of_mem_due hu
  obtain ⟨id, hfind⟩ := Option.isSome_iff_exists.mp (hrecord.isSome e he)
  rw [hid, idOf_of_find?_eq_some hfind, ← hsame, hfind]

include hrecord in
theorem origin_ne_minted_of_mem_due {u : Assignment}
    (hu : u ∈ (a.due roster prior current).assignments) : u.origin ≠ .minted := by
  obtain ⟨w, hw, rfl⟩ := List.mem_map.mp hu
  exact originOf_ne_minted hrecord hw

include hrecord in
theorem countFor_minted_due (g : Gender) :
    countFor (a.due roster prior current).assignments g .minted = 0 := by
  rw [countFor, List.countP_eq_zero]
  intro u hu hminted
  rw [Bool.and_eq_true, beq_iff_eq, beq_iff_eq] at hminted
  exact origin_ne_minted_of_mem_due hrecord hu hminted.2

include hrecord in
/-- A run for students who all are on record succeeds. -/
theorem assign_of_onRecord :
    a.assign roster prior current = .ok (a.due roster prior current) := by
  have hunique : ensureUnique (a.due roster prior current).assignments = .ok () := by
    rw [ensureUnique_eq_ok_iff]
    intro u hu v hv hid
    obtain ⟨e, he, hsame, -⟩ := exists_of_mem_due hu
    obtain ⟨f, hf, hsame', -⟩ := exists_of_mem_due hv
    rw [← hsame, ← hsame']
    apply hrecord.injective e he f hf
    rw [hsame, hsame', find?_of_mem_due hrecord hu, find?_of_mem_due hrecord hv, hid]
  rw [assign_of_fits fun u hu => fits_of_originOf_ne (originOf_ne_minted hrecord hu), hunique]
  rfl

end OnRecord

/-! ### After a run -/

section Again
variable {a : Assigner} {roster roster' : List Entry} {prior : Prior} {current : List String}
variable {issue : Issue}

/-- A run that succeeds puts its students on record. -/
theorem onRecord_of_assign (h : a.assign roster prior current = .ok issue) :
    OnRecord roster (prior.putAll issue.assignments) := by
  obtain rfl := eq_due_of_assign h
  constructor
  · intro e he
    rw [find?_putAll_due_of_mem he]
    rfl
  · intro e he f hf hfind
    obtain ⟨u, hu, hsame, hid⟩ := exists_mem_due a prior current he
    obtain ⟨v, hv, hsame', hid'⟩ := exists_mem_due a prior current hf
    rw [find?_putAll_due_of_mem he, find?_putAll_due_of_mem hf, Option.some.injEq] at hfind
    rw [← hsame, ← hsame']
    exact ensureUnique_eq_ok_iff.mp (ensureUnique_of_assign h) u hu v hv
      (hid.trans (hfind.trans hid'.symm))

/-- Once the ids of a run are on record, every run for the same students in any order, of whatever
year and whatever ids were issued in it, succeeds: it gives each student the id of the first run,
mints none, and leaves the next sequences where they start. -/
theorem assign_again (h : a.assign roster prior current = .ok issue)
    (hperm : roster'.Perm roster) (b : Assigner) (current' : List String) :
    ∃ again, b.assign roster' (prior.putAll issue.assignments) current' = .ok again ∧
      again.assignments.map (·.nationalId) = roster'.map (·.nationalId) ∧
      (∀ u ∈ again.assignments, u.origin ≠ .minted) ∧
      (∀ g, ∃ t, again.summary.gender? g = some t ∧ t.tally.minted = 0 ∧
        t.tally.next = b.start current' g) ∧
      ∀ u ∈ again.assignments, (∃ v ∈ issue.assignments, v.nationalId = u.nationalId) ∧
        ∀ v ∈ issue.assignments, v.nationalId = u.nationalId → u.id = v.id := by
  have hrecord := (onRecord_of_assign h).of_perm hperm
  obtain rfl := eq_due_of_assign h
  refine ⟨_, assign_of_onRecord hrecord, map_comp_entry_due (·.nationalId),
    fun u => origin_ne_minted_of_mem_due hrecord,
    fun g => ⟨_, gender?_due g, countFor_minted_due hrecord g, ?_⟩, fun u hu => ⟨?_, ?_⟩⟩
  · rw [start_eq_firstFree]
    simp only [countFor_minted_due hrecord, Nat.add_zero]
  · obtain ⟨e, he, hsame, -⟩ := exists_of_mem_due hu
    obtain ⟨v, hv, hsame', -⟩ := exists_mem_due a prior current (hperm.mem_iff.mp he)
    exact ⟨v, hv, hsame'.trans hsame⟩
  · intro v hv hid
    have hfind := find?_of_mem_due hrecord hu
    rw [← hid, find?_putAll_due hv, Option.some.injEq] at hfind
    exact hfind.symm

end Again

/-- The students of a run once more, in another order and in the next year. -/
theorem assign_again_relisted :
    relisted.reverse.Perm relisted ∧
    ∃ issue, of1404.assign relisted heldIds ["543730041"] = .ok issue ∧
    ∃ again, Assigner.assign ⟨1405, 55, .standard⟩ relisted.reverse
        (heldIds.putAll issue.assignments) ["553570006"] = .ok again ∧
      again.assignments.map (·.nationalId) = relisted.reverse.map (·.nationalId) ∧
      (∀ u ∈ again.assignments, u.origin ≠ .minted) ∧
      ∀ u ∈ again.assignments, ∀ v ∈ issue.assignments, v.nationalId = u.nationalId →
        u.id = v.id := by
  have hperm : relisted.reverse.Perm relisted := List.reverse_perm relisted
  obtain ⟨again, hagain, hids, hnone, -, hsame⟩ := assign_again assign_of1404_relisted
    hperm ⟨1405, 55, .standard⟩ ["553570006"]
  exact ⟨hperm, _, assign_of1404_relisted, again, hagain, hids, hnone,
    fun u hu => (hsame u hu).2⟩

end Assigner

end Mentorship.Registration
