import Mathlib.Data.List.Nodup
import Mentorship.Matching.Batch
import Mentorship.Proofs.Matching.Headers
import Mentorship.Proofs.Matching.RankOrder
import Mentorship.Proofs.Policy.Checked
import Mentorship.Proofs.Trimming

/-! Which mentors of a loaded pool tie. A pool is loaded only if no trimmed identifier repeats, but
keys are made of identifiers with their digits folded, so that two mentors whose identifiers differ
in the spelling of digits alone pass the check and share a key. Where the strategy hashes
identifiers as they are, no two mentors tie unless their hashes collide. -/

namespace Mentorship

namespace NaturalKey

open Text

theorem fold_of_trim {s : String} (h : trim s = s) : fold s = foldDigits s := by
  rw [fold, h]

end NaturalKey

namespace Matching

open Policy (Fairness)
open Text (trim foldDigits)

/-! ### Loaded pools -/

/-- What holds of the identifiers of a loaded pool. -/
structure Identifiers (ids : List String) : Prop where
  nodup : ids.Nodup
  trim_eq : ∀ id ∈ ids, trim id = id

namespace Mentor

variable {c : Columns} {seen : List String} {n : Nat}

/-- The identifier of a mentor is the trimmed cell, and none of those before. -/
theorem id_of_ofRow {row : List String} {m : Mentor} (h : ofRow c seen n row = .ok m) :
    m.id = trim (c.cell row .mentorId) ∧ m.id ∉ seen := by
  simp only [ofRow] at h
  split at h
  · cases h
  · split at h
    · cases h
    · rename_i hseen
      have hfresh : trim (c.cell row .mentorId) ∉ seen := by simpa using hseen
      rw [bind_eq_ok_iff] at h
      obtain ⟨remaining, -, h⟩ := h
      split at h <;> rw [bind_eq_ok_iff] at h
      · obtain ⟨initial, -, h⟩ := h
        cases h
        exact ⟨rfl, hfresh⟩
      · obtain ⟨initial, -, h⟩ := h
        cases h
        exact ⟨rfl, hfresh⟩

theorem identifiers_of_ofRowsFrom {rows : List (List String)} {pool : List Mentor}
    (h : ofRowsFrom c seen n rows = .ok pool) :
    Identifiers (pool.map (·.id)) ∧ ∀ id ∈ pool.map (·.id), id ∉ seen := by
  induction rows generalizing seen n pool with
  | nil =>
    cases h
    exact ⟨⟨List.nodup_nil, by simp⟩, by simp⟩
  | cons row rows ih =>
    simp only [ofRowsFrom, bind_eq_ok_iff, pure_eq_ok_iff] at h
    obtain ⟨m, hm, rest, hrest, rfl⟩ := h
    obtain ⟨hcell, hseen⟩ := id_of_ofRow hm
    obtain ⟨hids, hfresh⟩ := ih hrest
    rw [List.map_cons]
    refine ⟨⟨List.nodup_cons.mpr ⟨fun hmem => ?_, hids.nodup⟩, ?_⟩, ?_⟩
    · exact hfresh _ hmem List.mem_cons_self
    · rw [List.forall_mem_cons]
      exact ⟨by rw [hcell, Text.trim_trim], hids.trim_eq⟩
    · rw [List.forall_mem_cons]
      exact ⟨hseen, fun id hid hmem => hfresh id hid (List.mem_cons_of_mem _ hmem)⟩

theorem identifiers_of_ofSheet {sheet : Sheet} {p : Policy} {pool : List Mentor}
    (h : ofSheet sheet p = .ok pool) : Identifiers (pool.map (·.id)) := by
  rw [ofSheet, bind_eq_ok_iff] at h
  obtain ⟨c, -, h⟩ := h
  exact (identifiers_of_ofRowsFrom h).1

end Mentor

/-! ### What the ledger reaches -/

namespace Ledger

/-- The pools that a ledger comes to by taking seats. -/
inductive Reaches (pool : List Mentor) : List Mentor → Prop
  | start : Reaches pool pool
  | step {mid after : List Mentor} {place : Nat} {change : SeatChange} (h : Reaches pool mid)
      (hc : commit mid place = .ok (change, after)) : Reaches pool after

theorem map_id_commit {pool after : List Mentor} {place : Nat} {change : SeatChange}
    (h : commit pool place = .ok (change, after)) : after.map (·.id) = pool.map (·.id) := by
  unfold commit at h
  split at h
  · cases h
  · rename_i m hm
    split at h
    · cases h
      have hid : (pool.map (·.id))[place]? = some m.takeSeat.id := by
        rw [List.getElem?_map, hm]
        rfl
      obtain ⟨hlt, hget⟩ := List.getElem?_eq_some_iff.mp hid
      rw [List.map_set, ← hget, List.set_getElem_self]
    · cases h

theorem Reaches.map_id {pool after : List Mentor} (h : Reaches pool after) :
    after.map (·.id) = pool.map (·.id) := by
  induction h with
  | start => rfl
  | step _ hc ih => rw [map_id_commit hc, ih]

end Ledger

/-! ### Ties -/

namespace Ranking

variable {f : Fairness} {student : Student} {a b : Mentor}

/-- Mentors with one token have one identifier, unless the strategy makes no tokens. -/
theorem token?_eq_token?_iff :
    token? f student a = token? f student b ↔ f = .deterministic ∨ a.id = b.id := by
  cases f <;> simp [token?]

/-- The last rule ties for mentors with different trimmed identifiers exactly if no hashes are used
and the identifiers differ in the spelling of digits alone. -/
theorem compareBy_minMentorId_eq_eq_iff_foldDigits {ids : List String} (hids : Identifiers ids)
    (ha : a.id ∈ ids) (hb : b.id ∈ ids) (hne : a.id ≠ b.id)
    (hhash : digest? f student a = digest? f student b → token? f student a = token? f student b) :
    compareBy f student .minMentorId a b = .eq ↔
      f = .deterministic ∧ foldDigits a.id = foldDigits b.id := by
  have hdigest : digest? f student a = digest? f student b ↔ f = .deterministic := by
    constructor
    · intro h
      exact (token?_eq_token?_iff.mp (hhash h)).resolve_right hne
    · rintro rfl
      rfl
  rw [compareBy_minMentorId_eq_eq_iff, hdigest, Mentor.sortKey, Mentor.sortKey,
    NaturalKey.ofText_eq_ofText_iff, NaturalKey.fold_of_trim (hids.trim_eq _ ha),
    NaturalKey.fold_of_trim (hids.trim_eq _ hb)]

/-- Two mentors of a loaded pool tie, whatever seats have been taken, exactly if the strategy uses no
hashes, their identifiers differ in the spelling of digits alone and all other rules tie. -/
theorem order_eq_eq_iff_of_loaded {mode : Policy.Mode} {d : Policy.Draft} {p : Policy}
    (hp : Policy.check mode d = .ok p) {sheet : Sheet} {pool after : List Mentor}
    (hpool : Mentor.ofSheet sheet p = .ok pool) (hafter : Ledger.Reaches pool after) {i j : Nat}
    (hij : i ≠ j) (ha : after[i]? = some a) (hb : after[j]? = some b)
    (hhash : digest? p.fairness student a = digest? p.fairness student b →
      token? p.fairness student a = token? p.fairness student b) :
    order p student a b = .eq ↔
      p.fairness = .deterministic ∧ foldDigits a.id = foldDigits b.id ∧
        ∀ r ∈ p.rankingRules, r.kind ≠ .minMentorId →
          compareBy p.fairness student r.kind a b = .eq := by
  have hids : Identifiers (after.map (·.id)) :=
    hafter.map_id.symm ▸ Mentor.identifiers_of_ofSheet hpool
  have hget {k : Nat} {m : Mentor} (hm : after[k]? = some m) :
      (after.map (·.id))[k]? = some m.id := by
    rw [List.getElem?_map, hm, Option.map_some]
  have hne : a.id ≠ b.id := by
    intro heq
    have hlt := (List.getElem?_eq_some_iff.mp (hget ha)).1
    refine hij ((List.getElem?_inj hlt hids.nodup).mp ?_)
    rw [hget ha, hget hb, heq]
  have hlast := compareBy_minMentorId_eq_eq_iff_foldDigits hids
    (List.mem_of_getElem? (hget ha)) (List.mem_of_getElem? (hget hb)) hne hhash
  rw [order_eq_eq_iff, ← and_assoc, ← hlast]
  constructor
  · intro hall
    obtain ⟨r, hr, hkind⟩ := Policy.exists_minMentorId_of_check hp
    exact ⟨hkind ▸ hall r hr, fun r hr _ => hall r hr⟩
  · rintro ⟨hterminal, hothers⟩ r hr
    by_cases hkind : r.kind = .minMentorId
    · rw [hkind]
      exact hterminal
    · exact hothers r hr hkind

/-- A sheet with two mentors whose identifiers spell one number in different digits. -/
def twoSpellings : Sheet where
  headers := ["type", "group", "gender", "graduation_status", "center", "finance", "school",
    "mentor_id", "remaining_capacity", "initial_capacity"]
  rows := ["EMP-1", "EMP-۱"].map fun id => List.replicate 7 "1" ++ [id, "1"]

/-- A mentor of the sheet. -/
def spelled (id : String) : Mentor :=
  .fresh id (.ofStages fun _ => .int 1) 1

theorem ofSheet_twoSpellings (f : Fairness) :
    Mentor.ofSheet twoSpellings (.plain f) = .ok [spelled "EMP-1", spelled "EMP-۱"] := by
  have hheaders : twoSpellings.headers =
      (Columns.readable .pool).map (·.displayName (.plain f)) := by
    cases f <;> rfl
  -- By evaluation this would put every accepted name into lower case.
  rw [Mentor.ofSheet, hheaders, Columns.resolve_plain]
  cases f <;> decide +kernel

/-- Hashes tell the two spellings apart. -/
theorem order_spelled_ne_eq_of_mentorDigest :
    Policy.check .migrate (.plain .mentorDigest) = .ok (.plain .mentorDigest) ∧
    Mentor.ofSheet twoSpellings (.plain .mentorDigest) =
      .ok [spelled "EMP-1", spelled "EMP-۱"] ∧
    order (.plain .mentorDigest) ⟨"1", default⟩ (spelled "EMP-1") (spelled "EMP-۱") ≠ .eq := by
  have hcheck := Policy.check_plain .mentorDigest
  have hsheet := ofSheet_twoSpellings .mentorDigest
  have hhash : digest? .mentorDigest ⟨"1", default⟩ (spelled "EMP-1") ≠
      digest? .mentorDigest ⟨"1", default⟩ (spelled "EMP-۱") := by decide +kernel
  refine ⟨hcheck, hsheet, fun htie => ?_⟩
  obtain ⟨hplain, -⟩ := (order_eq_eq_iff_of_loaded hcheck hsheet .start Nat.zero_ne_one rfl rfl
    fun h => absurd h hhash).mp htie
  cases hplain

/-- Two different mentors of a sheet that is accepted tie by every rule, though no hashes collide:
without hashes the two spellings are one. -/
theorem order_spelled_eq_of_deterministic :
    Policy.check .migrate (.plain .deterministic) = .ok (.plain .deterministic) ∧
    Mentor.ofSheet twoSpellings (.plain .deterministic) =
      .ok [spelled "EMP-1", spelled "EMP-۱"] ∧
    spelled "EMP-1" ≠ spelled "EMP-۱" ∧
    token? .deterministic ⟨"1", default⟩ (spelled "EMP-1") =
      token? .deterministic ⟨"1", default⟩ (spelled "EMP-۱") ∧
    order (.plain .deterministic) ⟨"1", default⟩ (spelled "EMP-1") (spelled "EMP-۱") = .eq :=
  ⟨Policy.check_plain .deterministic, ofSheet_twoSpellings .deterministic,
    by decide, rfl, by decide +kernel⟩

end Ranking

end Matching

end Mentorship
