/-! Dictionaries: pairs of a key and a value, in ascending order of the keys, one per key. -/

namespace Mentorship

structure Dictionary (κ α : Type) where
  entries : List (κ × α)
  deriving DecidableEq, Repr

namespace Dictionary

section
variable {κ α : Type}

instance : EmptyCollection (Dictionary κ α) := ⟨⟨[]⟩⟩

def keys (d : Dictionary κ α) : List κ :=
  d.entries.map (·.1)

variable [BEq κ] [Ord κ]

def find? (key : κ) (d : Dictionary κ α) : Option α :=
  d.entries.lookup key

def contains (key : κ) (d : Dictionary κ α) : Bool :=
  (d.find? key).isSome

def insertEntry (key : κ) (value : α) : List (κ × α) → List (κ × α)
  | [] => [(key, value)]
  | (k, v) :: entries =>
    match compare key k with
    | .lt => (key, value) :: (k, v) :: entries
    | .eq => (key, value) :: entries
    | .gt => (k, v) :: insertEntry key value entries

/-- Sets the value of a key, in place of an earlier one. -/
def insert (key : κ) (value : α) (d : Dictionary κ α) : Dictionary κ α :=
  ⟨insertEntry key value d.entries⟩

/-- Sets the value of a key that has none. -/
def insertIfNew (key : κ) (value : α) (d : Dictionary κ α) : Dictionary κ α :=
  if d.contains key then d else d.insert key value

/-- Of several pairs with one key the last counts. -/
def ofList (pairs : List (κ × α)) : Dictionary κ α :=
  pairs.foldl (fun d (key, value) => d.insert key value) ∅

end

/-! ### Finding what was set -/

section
variable {κ α : Type} [DecidableEq κ]

theorem lookup_cons_ite (k k' : κ) (v : α) (entries : List (κ × α)) :
    ((k', v) :: entries).lookup k = if k = k' then some v else entries.lookup k := by
  by_cases h : k = k'
  · simp [h]
  · simp [List.lookup_cons, beq_false_of_ne h, h]

@[simp] theorem find?_empty (k : κ) : (∅ : Dictionary κ α).find? k = none := rfl

variable [Ord κ] [Std.LawfulEqOrd κ]

theorem lookup_insertEntry (key : κ) (value : α) (k : κ) (entries : List (κ × α)) :
    (insertEntry key value entries).lookup k =
      if k = key then some value else entries.lookup k := by
  induction entries with
  | nil => simp [insertEntry, lookup_cons_ite]
  | cons e entries ih =>
    obtain ⟨k', v⟩ := e
    simp only [insertEntry]
    split
    · simp [lookup_cons_ite]
    · rename_i h
      have h : key = k' := by simpa using h
      simp only [lookup_cons_ite, h]
      split <;> rfl
    · rename_i h
      have h : key ≠ k' := by rintro rfl; simp at h
      simp only [lookup_cons_ite, ih]
      split <;> split <;> simp_all

theorem find?_insert (key : κ) (value : α) (d : Dictionary κ α) (k : κ) :
    (d.insert key value).find? k = if k = key then some value else d.find? k :=
  lookup_insertEntry key value k d.entries

/-- A value that is found stays as it is. -/
theorem find?_insertIfNew (key : κ) (value : α) (d : Dictionary κ α) (k : κ) :
    (d.insertIfNew key value).find? k =
      if k = key then some ((d.find? key).getD value) else d.find? k := by
  unfold insertIfNew contains
  cases hfound : d.find? key with
  | none => simp [find?_insert]
  | some v =>
    by_cases h : k = key
    · simp [h, hfound]
    · simp [h]

theorem find?_ofList (pairs : List (κ × α)) (k : κ) :
    (ofList pairs).find? k = pairs.reverse.lookup k := by
  have hfoldl (d : Dictionary κ α) :
      (pairs.foldl (fun d (key, value) => d.insert key value) d).find? k =
        (pairs.reverse.lookup k).or (d.find? k) := by
    induction pairs generalizing d with
    | nil => rfl
    | cons e pairs ih =>
      rw [List.foldl_cons, ih, find?_insert, List.reverse_cons, List.lookup_append, Option.or_assoc,
        lookup_cons_ite]
      by_cases h : k = e.1 <;> simp [h]
  rw [ofList, hfoldl, find?_empty, Option.or_none]

end

end Dictionary

end Mentorship
