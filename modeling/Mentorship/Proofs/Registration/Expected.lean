import Mathlib.Data.Finset.Card
import Mentorship.Proofs.Registration.VisitOrder

/-! What each row of a roster is due, told without an order of service: an id of the prior year, or
else the sequence that lies as far above the greatest one issued as there are newcomers of the same
gender with smaller national ids. A student who is listed again keeps the id and the gender of the
first row. -/

namespace Mentorship.Registration

open Policy (Gender)

/-! ### Rows and students -/

section Rows
variable (roster : List Entry) (prior : Prior)

/-- Whether an earlier row holds the same student. -/
def isRepeat (u : Entry × Nat) : Bool :=
  (roster.take u.2).any (·.nationalId == u.1.nationalId)

/-- Where the id of a row comes from. -/
def originOf (u : Entry × Nat) : Origin :=
  if isRepeat roster u then .memoized
  else if (prior.find? u.1.nationalId).isSome then .priorYear
  else .minted

/-- The first row that holds a student. -/
def firstRow? (x : NationalId) : Option Entry :=
  roster.find? (·.nationalId == x)

/-- The gender of the first row that holds the student of a row. -/
def firstGender (e : Entry) : Gender :=
  ((firstRow? roster e.nationalId).getD e).gender

/-- The students without an id of the prior year, by the gender of their first rows. -/
def newcomers (g : Gender) : Finset NationalId :=
  (roster.map (·.nationalId)).toFinset.filter fun x =>
    prior.find? x = none ∧ (firstRow? roster x).map (·.gender) = some g

/-- How many newcomers have a smaller national id. -/
def newcomersBelow (g : Gender) (x : NationalId) : Nat :=
  ((newcomers roster prior g).filter (·.number < x.number)).card

variable {roster prior}

theorem isRepeat_iff {u : Entry × Nat} :
    isRepeat roster u = true ↔
      ∃ v : Entry × Nat, roster[v.2]? = some v.1 ∧ v.2 < u.2 ∧
        v.1.nationalId = u.1.nationalId := by
  simp only [isRepeat, List.any_eq_true, beq_iff_eq, List.mem_iff_getElem?, List.getElem?_take]
  constructor
  · rintro ⟨e, ⟨j, hj⟩, he⟩
    split at hj
    · rename_i hlt
      exact ⟨(e, j), hj, hlt, he⟩
    · cases hj
  · rintro ⟨⟨e, j⟩, hj, hlt, he⟩
    exact ⟨e, ⟨j, by simpa [hlt] using hj⟩, he⟩

/-- A row that repeats no earlier one is the first of its student. -/
theorem firstRow?_of_not_isRepeat {u : Entry × Nat} (hu : roster[u.2]? = some u.1)
    (h : isRepeat roster u = false) : firstRow? roster u.1.nationalId = some u.1 := by
  obtain ⟨hlt, hget⟩ := List.getElem?_eq_some_iff.mp hu
  rw [firstRow?, List.find?_eq_some_iff_getElem]
  refine ⟨by simp, u.2, hlt, hget, fun j hj => ?_⟩
  have hno : ¬ isRepeat roster u = true := by simp [h]
  rw [isRepeat_iff] at hno
  simp only [Bool.not_eq_true', beq_eq_false_iff_ne]
  exact fun heq => hno ⟨(roster[j], j), by simp, hj, heq⟩

/-- The first row of a student repeats no earlier one. -/
theorem exists_of_firstRow? {x : NationalId} {e : Entry} (h : firstRow? roster x = some e) :
    ∃ i, roster[i]? = some e ∧ isRepeat roster (e, i) = false ∧ e.nationalId = x := by
  rw [firstRow?, List.find?_eq_some_iff_getElem] at h
  obtain ⟨hx, i, hlt, rfl, hfirst⟩ := h
  have hx : roster[i].nationalId = x := by simpa using hx
  refine ⟨i, by simp, ?_, hx⟩
  rw [Bool.eq_false_iff, Ne, isRepeat_iff]
  rintro ⟨v, hv, hlt', hid⟩
  obtain ⟨hbound, hget⟩ := List.getElem?_eq_some_iff.mp hv
  simpa [hget, hid, hx] using hfirst v.2 hlt'

theorem firstGender_of_not_isRepeat {u : Entry × Nat} (hu : roster[u.2]? = some u.1)
    (h : isRepeat roster u = false) : firstGender roster u.1 = u.1.gender := by
  rw [firstGender, firstRow?_of_not_isRepeat hu h, Option.getD_some]

/-- The rows of one student have one first row. -/
theorem firstGender_congr {e e' : Entry} (he : e ∈ roster)
    (h : e.nationalId = e'.nationalId) : firstGender roster e = firstGender roster e' := by
  have hsome : (firstRow? roster e.nationalId).isSome = true := by
    rw [firstRow?, List.find?_isSome]
    exact ⟨e, he, by simp⟩
  obtain ⟨f, hf⟩ := Option.isSome_iff_exists.mp hsome
  rw [firstGender, firstGender, ← h, hf, Option.getD_some, Option.getD_some]

end Rows

/-! ### What an assigner owes -/

namespace Assigner

variable (a : Assigner) (roster : List Entry) (prior : Prior) (current : List String)

/-- The sequences issued this year for a gender. -/
def issued (g : Gender) : List Nat :=
  ((current.filterMap Id.ofText?).filter (·.belongsTo a.year (a.codes.code g))).map (·.sequence)

/-- One more than the greatest sequence issued this year for a gender, and one if there is none. -/
def firstFree (g : Gender) : Nat :=
  ((a.issued current g).max?.map (· + 1)).getD 1

/-- The sequence of a student who needs a new id. -/
def sequenceOf (e : Entry) : Nat :=
  a.firstFree current (firstGender roster e) +
    newcomersBelow roster prior (firstGender roster e) e.nationalId

/-- The registration id of a student. -/
def idOf (e : Entry) : String :=
  (prior.find? e.nationalId).getD <|
    Id.render ⟨a.year, a.codes.code (firstGender roster e), a.sequenceOf roster prior current e⟩

/-- The assignment of a row. -/
def expected (u : Entry × Nat) : Assignment :=
  ⟨u.1.row, u.1.nationalId, u.1.gender, a.idOf roster prior current u.1,
    originOf roster prior u⟩

/-- The maxima taken one after another are those of the sequences that count, each plus one. -/
theorem foldl_start (g : Gender) (ids : List Id) (n : Nat) :
    ids.foldl (fun next x =>
        if x.belongsTo a.year (a.codes.code g) then max next (x.sequence + 1) else next) n =
      (((ids.filter (·.belongsTo a.year (a.codes.code g))).map (·.sequence)).map (· + 1)).foldl
        max n := by
  induction ids generalizing n with
  | nil => rfl
  | cons x ids ih =>
    rw [List.foldl_cons, ih, List.filter_cons]
    split <;> rfl

theorem foldl_max_succ (ns : List Nat) (n : Nat) :
    (ns.map (· + 1)).foldl max (n + 1) = ns.foldl max n + 1 := by
  induction ns generalizing n with
  | nil => rfl
  | cons m ns ih =>
    rw [List.map_cons, List.foldl_cons, List.foldl_cons, ← ih]
    congr 1
    omega

theorem start_eq_firstFree (g : Gender) : a.start current g = a.firstFree current g := by
  rw [start, foldl_start, firstFree, issued, foldl_max_succ _ 0]
  cases ((current.filterMap Id.ofText?).filter
    (·.belongsTo a.year (a.codes.code g))).map (·.sequence) with
  | nil => rfl
  | cons n ns => simp [List.max?]

theorem idOf_congr {e e' : Entry} (he : e ∈ roster) (h : e.nationalId = e'.nationalId) :
    a.idOf roster prior current e = a.idOf roster prior current e' := by
  rw [idOf, idOf, sequenceOf, sequenceOf, firstGender_congr he h, h]

end Assigner

end Mentorship.Registration
