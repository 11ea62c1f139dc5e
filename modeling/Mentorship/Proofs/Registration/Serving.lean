import Mentorship.Proofs.Registration.Expected

/-! Serving a roster, one row after another. What a run has counted and remembered when it is the
turn of a row is a function of the rows served before, so every row gets what it is due, and the
run fails at the first row whose sequence takes more than four digits. -/

namespace Mentorship.Registration

open Policy (Gender)

/-! ### The rows served before -/

section Order
variable {roster : List Entry} {prior : Prior} {served rest : List (Entry × Nat)}
variable {u v : Entry × Nat}

theorem originOf_eq_minted_iff : originOf roster prior u = .minted ↔
    isRepeat roster u = false ∧ prior.find? u.1.nationalId = none := by
  rw [originOf]
  cases isRepeat roster u <;> cases prior.find? u.1.nationalId <;> simp

theorem getElem?_of_visitOrder (hv : Assigner.visitOrder roster = served ++ u :: rest) :
    roster[u.2]? = some u.1 := by
  rw [← Assigner.mem_visitOrder, hv]
  exact List.mem_append_right _ List.mem_cons_self

theorem pairwise_served (hv : Assigner.visitOrder roster = served ++ u :: rest) :
    served.Pairwise ServedBefore := by
  have hpair := Assigner.visitOrder_pairwise roster
  rw [hv, List.pairwise_append] at hpair
  exact hpair.1

/-- When it is the turn of a row, those served before have had theirs, and no others. -/
theorem mem_served_iff (hv : Assigner.visitOrder roster = served ++ u :: rest) :
    v ∈ served ↔ roster[v.2]? = some v.1 ∧ ServedBefore v u := by
  have hpair := Assigner.visitOrder_pairwise roster
  rw [hv, List.pairwise_append] at hpair
  obtain ⟨-, hrest, hserved⟩ := hpair
  rw [← Assigner.mem_visitOrder, hv]
  constructor
  · intro h
    exact ⟨List.mem_append_left _ h, hserved v h u List.mem_cons_self⟩
  · rintro ⟨h, hbefore⟩
    rcases List.mem_append.mp h with h | h
    · exact h
    · rcases List.mem_cons.mp h with rfl | h
      · exact absurd hbefore hbefore.asymm
      · exact absurd hbefore ((List.pairwise_cons.mp hrest).1 v h).asymm

theorem any_served (hv : Assigner.visitOrder roster = served ++ u :: rest) :
    served.any (·.1.nationalId == u.1.nationalId) = isRepeat roster u := by
  rw [Bool.eq_iff_iff, isRepeat_iff]
  simp only [List.any_eq_true, beq_iff_eq, mem_served_iff hv]
  constructor
  · rintro ⟨v, ⟨hget, hbefore⟩, hid⟩
    rcases hbefore with hlt | ⟨-, hlt⟩
    · rw [hid] at hlt
      omega
    · exact ⟨v, hget, hlt, hid⟩
  · rintro ⟨v, hget, hlt, hid⟩
    exact ⟨v, ⟨hget, .inr ⟨hid, hlt⟩⟩, hid⟩

/-- The rows of a gender that got an id of some origin. -/
def rowsOf (roster : List Entry) (prior : Prior) (served : List (Entry × Nat)) (g : Gender)
    (o : Origin) : List (Entry × Nat) :=
  served.filter fun v => v.1.gender == g && originOf roster prior v == o

theorem mem_rowsOf_minted (hv : Assigner.visitOrder roster = served ++ u :: rest) {g : Gender} :
    v ∈ rowsOf roster prior served g .minted ↔
      (roster[v.2]? = some v.1 ∧ ServedBefore v u) ∧
        v.1.gender = g ∧ isRepeat roster v = false ∧ prior.find? v.1.nationalId = none := by
  simp only [rowsOf, List.mem_filter, mem_served_iff hv, Bool.and_eq_true, beq_iff_eq,
    originOf_eq_minted_iff]

/-- Of two rows that got new ids neither repeats the other. -/
theorem nodup_rowsOf_minted (hv : Assigner.visitOrder roster = served ++ u :: rest) (g : Gender) :
    ((rowsOf roster prior served g .minted).map (·.1.nationalId)).Nodup := by
  rw [List.Nodup, List.pairwise_map]
  refine ((pairwise_served hv).filter _).imp_of_mem fun {v w} hv' hw' hbefore heq => ?_
  obtain ⟨⟨hget, -⟩, -⟩ := (mem_rowsOf_minted hv).mp hv'
  obtain ⟨-, -, hfirst, -⟩ := (mem_rowsOf_minted hv).mp hw'
  rcases hbefore with hlt | ⟨-, hlt⟩
  · rw [heq] at hlt
    omega
  · rw [isRepeat_iff.mpr ⟨v, hget, hlt, heq⟩] at hfirst
    cases hfirst

/-- When a student is served first, the newcomers below are those that got new ids before. -/
theorem toFinset_rowsOf_minted (hv : Assigner.visitOrder roster = served ++ u :: rest)
    (h : isRepeat roster u = false) (g : Gender) :
    ((rowsOf roster prior served g .minted).map (·.1.nationalId)).toFinset =
      (newcomers roster prior g).filter (·.number < u.1.nationalId.number) := by
  ext x
  simp only [newcomers, List.mem_toFinset, List.mem_map, Finset.mem_filter]
  constructor
  · rintro ⟨v, hmem, rfl⟩
    obtain ⟨⟨hget, hbefore⟩, hg, hfirst, hp⟩ := (mem_rowsOf_minted hv).mp hmem
    refine ⟨⟨⟨v.1, List.mem_of_getElem? hget, rfl⟩, hp, ?_⟩, ?_⟩
    · rw [firstRow?_of_not_isRepeat hget hfirst, Option.map_some, hg]
    · rcases hbefore with hlt | ⟨heq, hlt⟩
      · exact hlt
      · rw [isRepeat_iff.mpr ⟨v, hget, hlt, heq⟩] at h
        cases h
  · rintro ⟨⟨-, hp, hg⟩, hlt⟩
    obtain ⟨e, he, rfl⟩ := Option.map_eq_some_iff.mp hg
    obtain ⟨i, hget, hfirst, rfl⟩ := exists_of_firstRow? he
    exact ⟨(e, i), (mem_rowsOf_minted hv).mpr ⟨⟨hget, .inl hlt⟩, rfl, hfirst, hp⟩, rfl⟩

theorem length_rowsOf_minted (hv : Assigner.visitOrder roster = served ++ u :: rest)
    (h : isRepeat roster u = false) (g : Gender) :
    (rowsOf roster prior served g .minted).length =
      newcomersBelow roster prior g u.1.nationalId := by
  rw [newcomersBelow, ← toFinset_rowsOf_minted hv h,
    List.toFinset_card_of_nodup (nodup_rowsOf_minted hv g), List.length_map]

end Order

/-! ### One row -/

/-- How a row with an id of some origin is counted. -/
def Origin.count : Origin → Tally → Tally
  | priorYear, t => { t with reused := t.reused + 1 }
  | minted, t => { t with next := t.next + 1, minted := t.minted + 1 }
  | memoized, t => { t with memoized := t.memoized + 1 }

theorem Tallies.get_modify (t : Tallies) (g g' : Gender) (f : Tally → Tally) :
    (t.modify g f).get g' = if g = g' then f (t.get g') else t.get g' := by
  cases g <;> cases g' <;> rfl

namespace Assigner

section Run
variable (a : Assigner) (roster : List Entry) (prior : Prior) (current : List String)

/-- Whether the sequence of a row has four digits, if the row gets a new one. -/
def Fits (u : Entry × Nat) : Prop :=
  originOf roster prior u = .minted →
    a.sequenceOf roster prior current u.1 ≤ Id.greatestSequence

instance (u : Entry × Nat) : Decidable (a.Fits roster prior current u) :=
  inferInstanceAs (Decidable (_ → _))

/-- The tally of a gender once some rows are served. -/
def tallyOf (served : List (Entry × Nat)) (g : Gender) : Tally where
  next := a.firstFree current g + (rowsOf roster prior served g .minted).length
  reused := (rowsOf roster prior served g .priorYear).length
  minted := (rowsOf roster prior served g .minted).length
  memoized := (rowsOf roster prior served g .memoized).length

/-- What a run has counted and remembered once some rows are served. -/
structure Reached (served : List (Entry × Nat)) (s : Progress) : Prop where
  given : ∀ e ∈ roster, s.given.find? e.nationalId =
    if served.any (·.1.nationalId == e.nationalId) then some (a.idOf roster prior current e)
    else none
  tallies : ∀ g, s.tallies.get g = a.tallyOf roster prior current served g

/-- What a run has counted and remembered after one more row. -/
def after (s : Progress) (u : Entry × Nat) : Progress :=
  ⟨s.tallies.modify u.1.gender (originOf roster prior u).count,
    s.given.insertIfNew u.1.nationalId (a.idOf roster prior current u.1)⟩

variable {a roster prior current}
variable {served rest : List (Entry × Nat)} {u : Entry × Nat} {s : Progress}

theorem reached_start : a.Reached roster prior current [] ⟨a.startTallies current, ∅⟩ where
  given e he := by simp
  tallies g := by cases g <;> simp [startTallies, Tallies.get, tallyOf, rowsOf, start_eq_firstFree]

theorem tallyOf_append (g : Gender) :
    a.tallyOf roster prior current (served ++ [u]) g =
      if u.1.gender = g then
        (originOf roster prior u).count (a.tallyOf roster prior current served g)
      else a.tallyOf roster prior current served g := by
  by_cases h : u.1.gender = g
  · cases ho : originOf roster prior u <;>
      simp [tallyOf, rowsOf, Origin.count, h, ho, Nat.add_assoc]
  · simp [tallyOf, rowsOf, h]

theorem Reached.after (hs : a.Reached roster prior current served s)
    (hu : roster[u.2]? = some u.1) :
    a.Reached roster prior current (served ++ [u]) (a.after roster prior current s u) where
  given e he := by
    have hmem := List.mem_of_getElem? hu
    simp only [Assigner.after, Dictionary.find?_insertIfNew, hs.given e he, hs.given u.1 hmem,
      List.any_append, List.any_cons, List.any_nil, Bool.or_false]
    by_cases h : u.1.nationalId = e.nationalId
    · rw [if_pos h.symm, idOf_congr a roster prior current hmem h, h, beq_self_eq_true,
        Bool.or_true]
      cases served.any (·.1.nationalId == e.nationalId) <;> rfl
    · rw [if_neg (Ne.symm h), beq_false_of_ne h, Bool.or_false]
  tallies g := by
    rw [Assigner.after, Tallies.get_modify, hs.tallies, tallyOf_append]

theorem fits_of_originOf_ne (h : originOf roster prior u ≠ .minted) :
    a.Fits roster prior current u :=
  fun ho => absurd ho h

/-- When it is the turn of a row, it gets the id it is due, unless that id does not fit. -/
theorem choose_eq (hv : visitOrder roster = served ++ u :: rest)
    (hs : a.Reached roster prior current served s) :
    a.choose prior s u.1 =
      if a.Fits roster prior current u then
        .ok (a.idOf roster prior current u.1, originOf roster prior u,
          (originOf roster prior u).count)
      else .error (.sequenceOverflow u.1.gender) := by
  have hu := getElem?_of_visitOrder hv
  have hgiven := hs.given u.1 (List.mem_of_getElem? hu)
  rw [any_served hv] at hgiven
  cases hrepeat : isRepeat roster u with
  | true =>
    rw [hrepeat, if_pos rfl] at hgiven
    have ho : originOf roster prior u = .memoized := by rw [originOf, hrepeat, if_pos rfl]
    rw [if_pos (fits_of_originOf_ne (by simp [ho])), ho]
    simp only [choose, hgiven]
    rfl
  | false =>
    rw [hrepeat, if_neg Bool.false_ne_true] at hgiven
    cases hp : prior.find? u.1.nationalId with
    | some id =>
      have ho : originOf roster prior u = .priorYear := by simp [originOf, hrepeat, hp]
      have hid : a.idOf roster prior current u.1 = id := by rw [idOf, hp, Option.getD_some]
      rw [if_pos (fits_of_originOf_ne (by simp [ho])), ho, hid]
      simp only [choose, hgiven, hp]
      rfl
    | none =>
      have ho := originOf_eq_minted_iff.mpr ⟨hrepeat, hp⟩
      have hnext : (s.tallies.get u.1.gender).next = a.sequenceOf roster prior current u.1 := by
        rw [hs.tallies, sequenceOf, firstGender_of_not_isRepeat hu hrepeat]
        simp only [tallyOf, length_rowsOf_minted hv hrepeat]
      have hid : a.idOf roster prior current u.1 =
          Id.render ⟨a.year, a.codes.code u.1.gender, a.sequenceOf roster prior current u.1⟩ := by
        rw [idOf, hp, Option.getD_none, firstGender_of_not_isRepeat hu hrepeat]
      have hfits : a.Fits roster prior current u ↔
          a.sequenceOf roster prior current u.1 ≤ Id.greatestSequence := by simp [Fits, ho]
      simp only [choose, hgiven, hp, hnext, mint, ho, hid, hfits]
      by_cases hle : a.sequenceOf roster prior current u.1 ≤ Id.greatestSequence
      · rw [if_pos hle, if_pos hle]
        rfl
      · rw [if_neg hle, if_neg hle]
        rfl

theorem assignOne_eq (hv : visitOrder roster = served ++ u :: rest)
    (hs : a.Reached roster prior current served s) :
    a.assignOne prior s u.1 =
      if a.Fits roster prior current u then
        .ok (a.expected roster prior current u, a.after roster prior current s u)
      else .error (.sequenceOverflow u.1.gender) := by
  rw [assignOne, choose_eq hv hs]
  split <;> rfl

/-! ### A whole run -/

theorem assignAll_of_fits (hv : visitOrder roster = served ++ rest)
    (hs : a.Reached roster prior current served s)
    (hfit : ∀ u ∈ rest, a.Fits roster prior current u) :
    ∃ s', a.assignAll prior s rest =
        .ok (rest.map fun u => (a.expected roster prior current u, u.2), s') ∧
      a.Reached roster prior current (visitOrder roster) s' := by
  induction rest generalizing served s with
  | nil =>
    rw [hv, List.append_nil]
    exact ⟨s, rfl, hs⟩
  | cons u rest ih =>
    have hu := getElem?_of_visitOrder hv
    have hone := assignOne_eq hv hs
    rw [if_pos (hfit u List.mem_cons_self)] at hone
    obtain ⟨s', hall, hreached⟩ := ih (by simp [hv]) (hs.after hu)
      fun v h => hfit v (List.mem_cons_of_mem _ h)
    refine ⟨s', ?_, hreached⟩
    obtain ⟨e, place⟩ := u
    simp only [assignAll, hone, bind, Except.bind, hall]
    rfl

theorem assignAll_of_not_fits (hv : visitOrder roster = served ++ rest)
    (hs : a.Reached roster prior current served s)
    (h : rest.find? (fun v => !decide (a.Fits roster prior current v)) = some u) :
    a.assignAll prior s rest = .error (.sequenceOverflow u.1.gender) := by
  induction rest generalizing served s with
  | nil => cases h
  | cons v rest ih =>
    have hget := getElem?_of_visitOrder hv
    have hone := assignOne_eq hv hs
    obtain ⟨e, place⟩ := v
    by_cases hfit : a.Fits roster prior current (e, place)
    · rw [if_pos hfit] at hone
      rw [List.find?_cons_of_neg (by simp [hfit])] at h
      have hall := ih (by simp [hv]) (hs.after hget) h
      simp only [assignAll, hone, bind, Except.bind, hall]
    · rw [if_neg hfit] at hone
      rw [List.find?_cons_of_pos (by simp [hfit]), Option.some.injEq] at h
      subst h
      simp only [assignAll, hone]
      rfl

end Run

end Assigner

end Mentorship.Registration
