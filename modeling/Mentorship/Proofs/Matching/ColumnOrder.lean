import Mathlib.Data.Fin.Rev
import Mathlib.Data.List.Forall2
import Mathlib.Data.List.Nodup
import Mentorship.Matching.Roll
import Mentorship.Proofs.Matching.Headers

/-! The order of columns. A sheet whose columns have different labels can have them in any order:
each field is found at the column where it was moved to, so the same students and mentors are
read, or the same error is met. -/

namespace Mentorship

open Text

namespace Sheet

/-- Two sheets that have the same columns in different places: each column of the first has a
place in the second, where it has the same label and in each row the same cell. -/
structure Rearrangement (s t : Sheet) where
  place : Fin s.headers.length ≃ Fin t.headers.length
  size_eq : t.size = s.size
  label_eq (i : Fin s.headers.length) : label t.headers[place i] = label s.headers[i]
  cell_eq (row : Nat) (i : Fin s.headers.length) : t.cell row (place i) = s.cell row i

namespace Rearrangement

variable {s t : Sheet} (r : Rearrangement s t)

/-- Where a column is moved to. -/
def move (n : Nat) : Nat :=
  if h : n < s.headers.length then r.place ⟨n, h⟩ else n

theorem move_val (i : Fin s.headers.length) : r.move i = r.place i :=
  dif_pos i.isLt

theorem getElem?_label_place (i : Fin s.headers.length) :
    (t.headers.map label)[(r.place i : Nat)]? = (s.headers.map label)[(i : Nat)]? := by
  rw [List.getElem?_map, List.getElem?_map, List.getElem?_eq_getElem i.isLt,
    List.getElem?_eq_getElem (r.place i).isLt]
  exact congrArg some (r.label_eq i)

/-- A label of one column is found at the place of this column. -/
theorem idxOf?_label (hnodup : (s.headers.map label).Nodup) (name : String) :
    (t.headers.map label).idxOf? name = ((s.headers.map label).idxOf? name).map r.move := by
  cases ht : (t.headers.map label).idxOf? name with
  | some j =>
    obtain ⟨hlt, hname, -⟩ := List.idxOf?_eq_some_iff.mp ht
    rw [List.length_map] at hlt
    have hplace : r.place (r.place.symm ⟨j, hlt⟩) = ⟨j, hlt⟩ := r.place.apply_symm_apply _
    have hindex : (s.headers.map label).idxOf? name = some (r.place.symm ⟨j, hlt⟩ : Nat) := by
      apply idxOf?_of_nodup hnodup
      rw [← r.getElem?_label_place, hplace]
      exact List.getElem?_eq_some_iff.mpr ⟨_, hname⟩
    rw [hindex, Option.map_some, move_val, hplace]
  | none =>
    cases hs : (s.headers.map label).idxOf? name with
    | none => rfl
    | some n =>
      obtain ⟨hlt, hname, -⟩ := List.idxOf?_eq_some_iff.mp hs
      rw [List.length_map] at hlt
      have hmem : name ∈ t.headers.map label := by
        apply List.mem_of_getElem? (i := r.place ⟨n, hlt⟩)
        rw [r.getElem?_label_place]
        exact List.getElem?_eq_some_iff.mpr ⟨_, hname⟩
      exact absurd hmem (List.idxOf?_eq_none_iff.mp ht)

/-- A row of the second sheet has the cells of the first, each in its place. -/
theorem forall₂_cellAt :
    List.Forall₂ (fun row row' => ∀ i, cellAt row' (r.place i) = cellAt row i) s.rows t.rows := by
  rw [List.forall₂_iff_get]
  refine ⟨r.size_eq.symm, fun n hs ht i => ?_⟩
  simpa [cell, hs, ht] using r.cell_eq n i

end Rearrangement

end Sheet

namespace Matching

variable {p : Policy} {kind : SheetKind} {headers headers' : List String} {move : Nat → Nat}

namespace Columns

/-- The same fields at other positions. -/
def relocate (move : Nat → Nat) (c : Columns) : Columns :=
  ⟨c.positions.map fun (f, n) => (f, move n)⟩

theorem position?_relocate (c : Columns) (f : Field) :
    (c.relocate move).position? f = (c.position? f).map move := by
  obtain ⟨positions⟩ := c
  simp only [position?, relocate]
  induction positions with
  | nil => rfl
  | cons entry positions ih =>
    rw [List.map_cons, List.lookup_cons, List.lookup_cons, ih]
    cases f == entry.1 <;> rfl

/-- If every field is found where its column was moved to, the sheet is resolved to the positions
moved, or the same field is missing. -/
theorem resolve_relocate
    (h : ∀ f, locateField headers' p f = (locateField headers p f).map move) :
    resolve headers' kind p = (resolve headers kind p).map (relocate move) := by
  have hlost : lost? headers' kind p = lost? headers kind p := by
    simp only [lost?, h, Option.isNone_map]
  have hfound (fields : List Field) :
      found headers' p fields = (found headers p fields).map fun (f, n) => (f, move n) := by
    simp only [found, h, List.map_filterMap, Option.map_map, Function.comp_def]
  rw [resolve_eq, resolve_eq, hlost]
  cases lost? headers kind p with
  | some f => rfl
  | none =>
    rw [hfound]
    rfl

theorem locateField_rearrangement {s t : Sheet} (r : s.Rearrangement t)
    (hnodup : (s.headers.map label).Nodup) (f : Field) :
    locateField t.headers p f = (locateField s.headers p f).map r.move := by
  simp only [locateField, locate_eq, r.idxOf?_label hnodup, List.map_findSome?, Function.comp_def]

/-- Rows from which the fields are read alike. -/
def Alike (c c' : Columns) (row row' : List String) : Prop :=
  ∀ f, c'.cell row' f = c.cell row f

theorem Alike.profile_eq {c c' : Columns} {row row' : List String} (h : Alike c c' row row') :
    c'.profile row' = c.profile row := by
  simp only [profile, h _]

/-- The rows of a sheet are read alike wherever its columns are. -/
theorem forall₂_alike {s t : Sheet} (r : s.Rearrangement t) {c : Columns}
    (h : resolve s.headers kind p = .ok c) :
    List.Forall₂ (Alike c (c.relocate r.move)) s.rows t.rows := by
  refine r.forall₂_cellAt.imp fun row row' hcells f => ?_
  rw [cell, cell, position?_relocate]
  cases hf : c.position? f with
  | none => rfl
  | some n =>
    obtain ⟨i, rfl⟩ : ∃ i : Fin s.headers.length, (i : Nat) = n :=
      ⟨⟨n, position?_lt_length h hf⟩, rfl⟩
    rw [Option.map_some, r.move_val]
    exact hcells i

end Columns

open Columns (Alike)

variable {c c' : Columns} {row row' : List String} {rows rows' : List (List String)}

namespace Student

theorem ofRow_alike (h : Alike c c' row row') (n : Nat) : ofRow c' n row' = ofRow c n row := by
  rw [ofRow, ofRow, h, h.profile_eq]

theorem ofRowsFrom_alike (h : List.Forall₂ (Alike c c') rows rows') (n : Nat) :
    ofRowsFrom c' n rows' = ofRowsFrom c n rows := by
  induction h generalizing n with
  | nil => rfl
  | cons hrow hrows ih => rw [ofRowsFrom, ofRowsFrom, ofRow_alike hrow, ih]

end Student

namespace Mentor

theorem ofRow_alike (h : Alike c c' row row') (seen : List String) (n : Nat) :
    ofRow c' seen n row' = ofRow c seen n row := by
  simp only [ofRow, h _, h.profile_eq]

theorem ofRowsFrom_alike (h : List.Forall₂ (Alike c c') rows rows') (seen : List String)
    (n : Nat) : ofRowsFrom c' seen n rows' = ofRowsFrom c seen n rows := by
  induction h generalizing seen n with
  | nil => rfl
  | cons hrow hrows ih => simp only [ofRowsFrom, ofRow_alike hrow, ih]

end Mentor

/-- Sheets with the same columns in different places, all of different labels, have the same
students and mentors, or the same error. -/
theorem ofSheet_rearrangement {s t : Sheet} (r : s.Rearrangement t)
    (hnodup : (s.headers.map label).Nodup) (p : Policy) :
    Student.ofSheet t p = Student.ofSheet s p ∧ Mentor.ofSheet t p = Mentor.ofSheet s p := by
  have hresolve (kind : SheetKind) : Columns.resolve t.headers kind p =
      (Columns.resolve s.headers kind p).map (Columns.relocate r.move) :=
    Columns.resolve_relocate (Columns.locateField_rearrangement r hnodup)
  constructor
  · rw [Student.ofSheet, Student.ofSheet, hresolve]
    cases hc : Columns.resolve s.headers .students p with
    | error e => rfl
    | ok c => exact Student.ofRowsFrom_alike (Columns.forall₂_alike r hc) 1
  · rw [Mentor.ofSheet, Mentor.ofSheet, hresolve]
    cases hc : Columns.resolve s.headers .pool p with
    | error e => rfl
    | ok c => exact Mentor.ofRowsFrom_alike (Columns.forall₂_alike r hc) [] 1

/-- A pool of two mentors, the second of whom has no cell for the initial capacity. -/
def raggedPool : Sheet where
  headers := (Columns.readable .pool).map (·.displayName (.plain .deterministic))
  rows := [List.replicate 7 "1" ++ ["EMP-1", "2", "5"], List.replicate 7 "1" ++ ["EMP-2", "3"]]

/-- The columns of that pool from the last to the first. -/
def reversedPool : Sheet where
  headers := raggedPool.headers.reverse
  rows := [["5", "2", "EMP-1"] ++ List.replicate 7 "1", ["", "3", "EMP-2"] ++ List.replicate 7 "1"]

/-- The last column of the pool takes the first place, and so on. -/
def reversal : raggedPool.Rearrangement reversedPool where
  place := Fin.revPerm
  size_eq := rfl
  label_eq i := by
    have hheader : ∀ i : Fin raggedPool.headers.length,
        reversedPool.headers[Fin.rev i] = raggedPool.headers[i] := by decide
    exact congrArg label (hheader i)
  cell_eq
    | 0 => by decide
    | 1 => by decide
    | _ + 2 => fun _ => rfl

theorem ofSheet_reversedPool :
    (raggedPool.headers.map label).Nodup ∧
    Student.ofSheet reversedPool (.plain .deterministic) =
      Student.ofSheet raggedPool (.plain .deterministic) ∧
    Mentor.ofSheet reversedPool (.plain .deterministic) =
      .ok [⟨"EMP-1", .ofStages fun _ => .int 1, 2, 5, 0⟩,
        ⟨"EMP-2", .ofStages fun _ => .int 1, 3, 3, 0⟩] := by
  have hnodup : (raggedPool.headers.map label).Nodup := by
    rw [map_label_of_isPlainName (by decide +kernel)]
    decide
  obtain ⟨hstudents, hmentors⟩ := ofSheet_rearrangement reversal hnodup (.plain .deterministic)
  refine ⟨hnodup, hstudents, hmentors.trans ?_⟩
  rw [Mentor.ofSheet, raggedPool, Columns.resolve_plain]
  decide +kernel

end Matching

end Mentorship
