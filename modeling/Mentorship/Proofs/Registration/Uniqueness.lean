import Mentorship.Policy.Check
import Mentorship.Proofs.Registration.IdText
import Mentorship.Proofs.Registration.Issuing
import Mentorship.Proofs.SmallNames

/-! Registration ids in the hands of two students. A run that succeeds gives no text to two
students. Two texts may still be one id, but only if one of them was kept from the prior year in a
spelling other than the one that ids are written in. -/

namespace Mentorship.Registration

open Policy (GenderCodes)
open Text (isPlainName isSmallName label label_of_isPlainName label_of_isSmallName)

/-! ### Clashing texts -/

section Clashes

/-- Who holds an id: someone met before, or else the first who has it in a list. -/
def holderOf (holders : Dictionary String NationalId) (as : List Assignment) (id : String) :
    Option NationalId :=
  (holders.find? id).or ((as.find? (·.id == id)).map (·.nationalId))

variable {holders : Dictionary String NationalId} {as : List Assignment} {a b : Assignment}

/-- The first who has a new id holds it from then on. -/
theorem holderOf_insert (hnew : holders.find? a.id = none) (id : String) :
    holderOf (holders.insert a.id a.nationalId) as id = holderOf holders (a :: as) id := by
  rw [holderOf, holderOf, Dictionary.find?_insert, List.find?_cons]
  by_cases h : id = a.id
  · simp [h, hnew]
  · rw [if_neg h, beq_false_of_ne (Ne.symm h)]

theorem holderOf_cons_of_isSome (hheld : (holders.find? a.id).isSome) (id : String) :
    holderOf holders (a :: as) id = holderOf holders as id := by
  rw [holderOf, holderOf, List.find?_cons]
  by_cases h : id = a.id
  · obtain ⟨x, hx⟩ := Option.isSome_iff_exists.mp hheld
    rw [h, hx, Option.some_or, Option.some_or]
  · rw [beq_false_of_ne (Ne.symm h)]

/-- The assignments that clash are those whose id someone else holds. -/
theorem clashesAfter_eq : clashesAfter holders as =
    (as.filter fun a => holderOf holders as a.id != some a.nationalId).map fun a =>
      ⟨a.row, a.id⟩ := by
  -- The holders grow along the list; `holderOf` looks into both, so it stays the same.
  induction as generalizing holders with
  | nil => rfl
  | cons a as ih =>
    rw [clashesAfter, List.filter_cons]
    cases hfind : holders.find? a.id with
    | none =>
      have hself : holderOf holders (a :: as) a.id = some a.nationalId := by
        simp [holderOf, hfind]
      rw [hself, bne_self_eq_false, if_neg Bool.false_ne_true]
      simp only [ih, holderOf_insert hfind]
    | some x =>
      have hself : holderOf holders (a :: as) a.id = some x := by simp [holderOf, hfind]
      have hrest : ∀ id, holderOf holders (a :: as) id = holderOf holders as id :=
        holderOf_cons_of_isSome (hfind ▸ rfl)
      by_cases hx : x = a.nationalId
      · simp [hself, hx, hrest, ih]
      · simp [hself, hx, hrest, ih]

/-- Among assignments alone an id is held by the first who has it. -/
theorem exists_holderOf_empty (ha : a ∈ as) :
    ∃ b ∈ as, b.id = a.id ∧ holderOf ∅ as a.id = some b.nationalId := by
  have hsome : (as.find? (·.id == a.id)).isSome = true :=
    List.find?_isSome.mpr ⟨a, ha, beq_self_eq_true _⟩
  obtain ⟨b, hb⟩ := Option.isSome_iff_exists.mp hsome
  have hid : b.id = a.id := by simpa using List.find?_some hb
  refine ⟨b, List.mem_of_find?_eq_some hb, hid, ?_⟩
  rw [holderOf, hb]
  rfl

/-- The check passes exactly if no text is given to two students. -/
theorem ensureUnique_eq_ok_iff : ensureUnique as = .ok () ↔
    ∀ a ∈ as, ∀ b ∈ as, a.id = b.id → a.nationalId = b.nationalId := by
  have hok : ensureUnique as = .ok () ↔
      ∀ a ∈ as, holderOf ∅ as a.id = some a.nationalId := by
    rw [ensureUnique, clashes, clashesAfter_eq]
    simp [List.filter_eq_nil_iff]
  rw [hok]
  constructor
  · intro h a ha b hb hid
    have hheld := h a ha
    rw [hid, h b hb, Option.some.injEq] at hheld
    exact hheld.symm
  · intro h a ha
    obtain ⟨b, hb, hid, hheld⟩ := exists_holderOf_empty ha
    rw [hheld, h b hb a ha hid]

end Clashes

/-! ### A header that is found -/

/-- A header that is an accepted name is found, if no header before it has such a label. -/
theorem RosterField.locate_append (roster : RosterKind) {f : RosterField} {h : String}
    (before after : List String)
    (hbefore : ∀ b ∈ before, ∀ name ∈ f.acceptedNames, label name ≠ label b)
    (hh : h ∈ f.acceptedNames) : locate roster (before ++ h :: after) f = .ok before.length := by
  have hnone : (before.findIdx? fun b => f.acceptedNames.any fun name => label name == label b) =
      none := by
    simpa [List.findIdx?_eq_none_iff] using hbefore
  have hfound : (f.acceptedNames.any fun name => label name == label h) = true :=
    List.any_eq_true.mpr ⟨h, hh, beq_self_eq_true _⟩
  rw [locate, List.findIdx?_append, hnone, List.findIdx?_cons, hfound]
  simp

theorem RosterField.label_of_mem_acceptedNames {f : RosterField} {name : String}
    (h : name ∈ f.acceptedNames) : label name = name := by
  have hplain : ∀ name ∈ f.acceptedNames, isPlainName name = true := by
    cases f <;> decide +kernel
  exact label_of_isPlainName (hplain name h)

/-- An accepted name is found behind headers in small letters that are not accepted. -/
theorem RosterField.locate_of_isSmallName (roster : RosterKind) {f : RosterField} {h : String}
    (before after : List String)
    (hbefore : ∀ b ∈ before, isSmallName b = true ∧ b ∉ f.acceptedNames)
    (hh : h ∈ f.acceptedNames) : locate roster (before ++ h :: after) f = .ok before.length := by
  refine locate_append roster before after (fun b hb name hname heq => ?_) hh
  obtain ⟨hsmall, hother⟩ := hbefore b hb
  rw [label_of_mem_acceptedNames hname, label_of_isSmallName hsmall] at heq
  exact hother (heq ▸ hname)

/-! ### A run that succeeds -/

namespace Assigner

variable {a : Assigner} {roster : List Entry} {prior : Prior} {current : List String}
variable {issue : Issue} {u v : Assignment} {x : Id}

theorem ensureUnique_of_assign (h : a.assign roster prior current = .ok issue) :
    ensureUnique issue.assignments = .ok () := by
  rw [assign, bind_eq_ok_iff] at h
  obtain ⟨⟨served, s⟩, -, h⟩ := h
  rw [bind_eq_ok_iff] at h
  obtain ⟨⟨⟩, hunique, h⟩ := h
  rw [← pure_eq_ok_iff.mp h]
  exact hunique

/-- An id that is spelled in another way than ids are written was kept from the prior year. -/
theorem prior_of_respelled (h : a.assign roster prior current = .ok issue)
    (hu : u ∈ issue.assignments) (hread : Id.ofText? u.id = some x) (hspelled : u.id ≠ x.render) :
    prior.find? u.nationalId = some u.id := by
  rw [eq_due_of_assign h, due, List.mem_map] at hu
  obtain ⟨w, -, rfl⟩ := hu
  simp only [expected, idOf] at hread hspelled ⊢
  cases hp : prior.find? w.1.nationalId with
  | some id => rw [Option.getD_some]
  | none =>
    rw [hp, Option.getD_none] at hread hspelled
    exact absurd (Id.render_eq_of_ofText?_render hread) hspelled

/-- Students who share an id after a run have it in different spellings, of which one was kept from
the prior year and is not the way that ids are written. -/
theorem respelled_of_shared (h : a.assign roster prior current = .ok issue)
    (hu : u ∈ issue.assignments) (hv : v ∈ issue.assignments) (hne : u.nationalId ≠ v.nationalId)
    (hux : Id.ofText? u.id = some x) (hvx : Id.ofText? v.id = some x) :
    u.id ≠ v.id ∧
      (prior.find? u.nationalId = some u.id ∧ u.id ≠ x.render ∨
        prior.find? v.nationalId = some v.id ∧ v.id ≠ x.render) := by
  have htexts : u.id ≠ v.id := fun heq => hne <|
    ensureUnique_eq_ok_iff.mp (ensureUnique_of_assign h) u hu v hv heq
  refine ⟨htexts, ?_⟩
  by_cases hspelled : u.id = x.render
  · have hother : v.id ≠ x.render := fun heq => htexts (hspelled.trans heq.symm)
    exact .inr ⟨prior_of_respelled h hv hvx hother, hother⟩
  · exact .inl ⟨prior_of_respelled h hu hux hspelled, hspelled⟩

/-- The id that is free next, kept from the prior year in Persian digits. -/
def persianSheet : Sheet where
  headers := ["counter", "national_id"]
  rows := [["۵۴۳۵۷۰۰۰۱", "0000000002"]]

def persianPrior : Prior := ⟨[(.ofDigit 2, "۵۴۳۵۷۰۰۰۱")]⟩

/-- The id of the prior year is read as it stands. -/
theorem ofSheet_persianSheet : Prior.ofSheet persianSheet = .ok persianPrior := by
  have hid : RosterField.locate .priorYear persianSheet.headers .nationalId = .ok 1 :=
    RosterField.locate_of_isSmallName .priorYear ["counter"] [] (by decide)
      List.mem_cons_self
  have hcounter : RosterField.locate .priorYear persianSheet.headers .counter = .ok 0 :=
    RosterField.locate_append .priorYear [] ["national_id"] (List.forall_mem_nil _)
      List.mem_cons_self
  rw [Prior.ofSheet, hid, hcounter]
  rfl

/-- Two students, one of whom has an id of the prior year. -/
def pair : List Entry :=
  [⟨1, .ofDigit 1, .male⟩, ⟨2, .ofDigit 2, .male⟩]

def newcomer : Assignment :=
  ⟨1, .ofDigit 1, .male, "543570001", .minted⟩

def keeper : Assignment :=
  ⟨2, .ofDigit 2, .male, "۵۴۳۵۷۰۰۰۱", .priorYear⟩

theorem assign_of1404_pair : ∃ issue, of1404.assign pair persianPrior [] = .ok issue ∧
    newcomer ∈ issue.assignments ∧ keeper ∈ issue.assignments := by
  have hdue : (of1404.due pair persianPrior []).assignments = [newcomer, keeper] := rfl
  have hfits : ∀ u ∈ pair.zipIdx, of1404.Fits pair persianPrior [] u := by decide
  refine ⟨of1404.due pair persianPrior [], ?_, by simp [hdue], by simp [hdue]⟩
  rw [assign_of_fits hfits, hdue]
  rfl

/-- The two share an id, and it is the kept one that is spelled in another way. -/
theorem respelled_of_shared_pair :
    ∃ issue, of1404.assign pair persianPrior [] = .ok issue ∧
      newcomer ∈ issue.assignments ∧ keeper ∈ issue.assignments ∧
      newcomer.nationalId ≠ keeper.nationalId ∧
      Id.ofText? newcomer.id = some ⟨54, 357, 1⟩ ∧ Id.ofText? keeper.id = some ⟨54, 357, 1⟩ ∧
      newcomer.id ≠ keeper.id ∧ persianPrior.find? keeper.nationalId = some keeper.id ∧
      keeper.id ≠ Id.render ⟨54, 357, 1⟩ := by
  obtain ⟨issue, hassign, hnew, hkeep⟩ := assign_of1404_pair
  have hne : newcomer.nationalId ≠ keeper.nationalId := by decide
  have hread : Id.ofText? newcomer.id = some ⟨54, 357, 1⟩ := rfl
  have hread' : Id.ofText? keeper.id = some ⟨54, 357, 1⟩ := rfl
  have hnone : persianPrior.find? newcomer.nationalId = none := rfl
  obtain ⟨htexts, hspelled⟩ :=
    respelled_of_shared hassign hnew hkeep hne hread hread'
  refine ⟨issue, hassign, hnew, hkeep, hne, hread, hread', htexts,
    hspelled.resolve_left fun h => ?_⟩
  rw [hnone] at h
  exact absurd h.1 (Option.some_ne_none _).symm

/-- Two students of a run that succeeds have ids that are read as the same one, though the ids of
the prior year are as they were read from a sheet and the codes of the genders are in order. -/
theorem exists_shared_id :
    Prior.ofSheet persianSheet = .ok persianPrior ∧
    Assigner.ofYear 1404 .standard = .ok of1404 ∧
    Policy.isThreeDigits GenderCodes.standard.female = true ∧
    Policy.isThreeDigits GenderCodes.standard.male = true ∧
    GenderCodes.standard.female ≠ GenderCodes.standard.male ∧
    ∃ issue, of1404.assign pair persianPrior [] = .ok issue ∧
      ∃ u ∈ issue.assignments, ∃ v ∈ issue.assignments, u.nationalId ≠ v.nationalId ∧
        ∃ x, Id.ofText? u.id = some x ∧ Id.ofText? v.id = some x := by
  obtain ⟨issue, hassign, hnew, hkeep⟩ := assign_of1404_pair
  exact ⟨ofSheet_persianSheet, rfl, rfl, rfl, by decide, issue, hassign,
    newcomer, hnew, keeper, hkeep, by decide, ⟨54, 357, 1⟩, rfl, rfl⟩

end Assigner

end Mentorship.Registration
