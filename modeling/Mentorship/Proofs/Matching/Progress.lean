import Mentorship.Proofs.Matching.Turns
import Mentorship.Proofs.Policy.Checked

/-! Notices of progress. A batch tells of itself while it runs: at its start, after every turn and
at its end. What it has told is what its outcome lists. The shares told grow from nothing to the
whole, and none is cut short as long as a hundred times the students can be counted in a word. -/

namespace Mentorship.Matching.Batch

/-! ### Shares in words -/

theorem toNat_max (x y : USize) : (max x y).toNat = max x.toNat y.toNat := by
  have hmax : max x y = if x ≤ y then y else x := rfl
  rw [hmax, Nat.max_def]
  simp only [USize.le_iff_toNat_le]
  split <;> rfl

/-- Where a hundred times the total fits in a word, a share is the quotient rounded down. -/
theorem toNat_share {done total : Nat} (hdone : done ≤ total) (hsize : 100 * total < USize.size) :
    (share done total).toNat = 100 * done / total := by
  have hword {n : Nat} (hn : n ≤ total) : (USize.ofNat n).toNat = n :=
    USize.toNat_ofNat_of_lt' (by omega)
  have hhundred : (100 : USize).toNat = 100 := by simp
  have hproduct : done * 100 < USize.size := by omega
  rw [share, USize.toNat_div, USize.toNat_mul, toNat_max, hword hdone, hword (Nat.le_refl total),
    hhundred, USize.toNat_one]
  rcases Nat.eq_zero_or_pos total with rfl | hpos
  · simp [Nat.le_zero.mp hdone]
  · rw [Nat.max_eq_left hpos, Nat.mul_comm 100 done]
    exact congrArg (· / total) (Nat.mod_eq_of_lt hproduct)

theorem share_le {done total : Nat} (hdone : done ≤ total) : 100 * done / total ≤ 100 :=
  Nat.div_le_of_le_mul (Nat.mul_comm total 100 ▸ Nat.mul_le_mul_left 100 hdone)

/-- Narrowing a share to a byte cuts nothing off. -/
theorem toNat_toUInt8_share {done total : Nat} (hdone : done ≤ total)
    (hsize : 100 * total < USize.size) :
    (share done total).toUInt8.toNat = (share done total).toNat := by
  have hle := share_le hdone
  rw [USize.toNat_toUInt8, toNat_share hdone hsize]
  exact Nat.mod_eq_of_lt (by omega)

theorem percent_eq {done total : Nat} (hdone : done ≤ total) (hsize : 100 * total < USize.size) :
    percent done total = min 99 (100 * done / total) := by
  rw [percent, UInt8.toNat_min, toNat_toUInt8_share hdone hsize, toNat_share hdone hsize,
    Nat.min_comm]
  rfl

theorem percent_le (done total : Nat) : percent done total ≤ 99 := by
  rw [percent, UInt8.toNat_min]
  exact Nat.min_le_right _ _

theorem percent_mono {j k total : Nat} (hjk : j ≤ k) (hk : k ≤ total)
    (hsize : 100 * total < USize.size) : percent j total ≤ percent k total := by
  have hquotient : 100 * j / total ≤ 100 * k / total :=
    Nat.div_le_div_right (Nat.mul_le_mul_left 100 hjk)
  rw [percent_eq (Nat.le_trans hjk hk) hsize, percent_eq hk hsize]
  omega

/-! ### Notices while a batch runs -/

variable (p : Policy)

/-- What is told from the turn of a row on; a turn that fails is the end of it. -/
def reportsFrom (total row : Nat) : List Student → List Mentor → List Notice
  | [], _ => [endNotice]
  | student :: students, pool =>
    match turn p row student pool with
    | .error _ => []
    | .ok (_, pool) => turnNotice (row + 1) total :: reportsFrom total (row + 1) students pool

/-- What a batch tells from its start on. -/
def reports (students : List Student) (pool : List Mentor) : List Notice :=
  startNotice students.length :: reportsFrom p students.length 0 students pool

theorem reportsFrom_eq (total row : Nat) (students : List Student) (pool : List Mentor) :
    reportsFrom p total row students pool =
      (List.range' (row + 1) students.length).map (turnNotice · total) ++ [endNotice] := by
  induction students generalizing row pool with
  | nil => rfl
  | cons student students ih => simp [reportsFrom, turn_eq, ih, List.range'_succ]

/-- What a batch tells are the notices for its number of students. -/
theorem reports_eq (students : List Student) (pool : List Mentor) :
    reports p students pool = notices students.length := by
  rw [reports, reportsFrom_eq, notices, List.range'_eq_map_range, List.map_map]
  simp [Function.comp_def, Nat.add_comm]

/-! ### The shares told -/

theorem map_percent_notices (total : Nat) :
    (notices total).map (·.percent) =
      0 :: ((List.range total).map fun i => percent (i + 1) total) ++ [100] := by
  simp [notices, startNotice, turnNotice, endNotice, Function.comp_def]

theorem pairwise_percent_notices {total : Nat} (hsize : 100 * total < USize.size) :
    ((notices total).map (·.percent)).Pairwise (· ≤ ·) := by
  have hturns : ((List.range total).map fun i => percent (i + 1) total).Pairwise (· ≤ ·) := by
    refine List.pairwise_map.mpr (List.pairwise_lt_range.imp_of_mem fun {i j} _ hj hij => ?_)
    exact percent_mono (Nat.succ_le_succ (Nat.le_of_lt hij)) (List.mem_range.mp hj) hsize
  rw [map_percent_notices, List.cons_append, List.pairwise_cons, List.pairwise_append]
  refine ⟨fun _ _ => Nat.zero_le _, hturns, List.pairwise_singleton _ _, fun x hx y hy => ?_⟩
  obtain ⟨i, -, rfl⟩ := List.mem_map.mp hx
  obtain rfl := List.mem_singleton.mp hy
  exact Nat.le_trans (percent_le (i + 1) total) (by decide)

/-- Only the notice of the end tells of a hundred. -/
theorem percent_le_of_mem_dropLast {total : Nat} {x : Notice} (hx : x ∈ (notices total).dropLast) :
    x.percent ≤ 99 := by
  rw [notices, List.dropLast_concat] at hx
  rcases List.mem_cons.mp hx with rfl | hx
  · exact Nat.zero_le 99
  · obtain ⟨i, -, rfl⟩ := List.mem_map.mp hx
    exact percent_le (i + 1) total

theorem getElem?_notices {k total : Nat} (hpos : 1 ≤ k) (hk : k ≤ total) :
    (notices total)[k]? = some (turnNotice k total) := by
  obtain ⟨i, rfl⟩ := Nat.exists_eq_add_of_le' hpos
  have hi : i < total := hk
  rw [notices, List.cons_append, List.getElem?_cons_succ,
    List.getElem?_append_left (by simpa using hi), List.getElem?_map, List.getElem?_range hi]
  rfl

/-- A batch tells of itself once at its start, once after each student and once at its end, while it
runs as in its outcome. The shares never fall, the first is nothing and the last the whole, and only
the last is above 99: after `k` students it is the part of a hundred that they are, rounded down, or
99 if that is less. No share loses anything in the byte that it is narrowed to. -/
theorem run_progress (students : List Student) (pool : List Mentor)
    (hsize : 100 * students.length < USize.size) :
    ∃ out, run p students pool = .ok out ∧ out.progress = reports p students pool ∧
      out.progress.length = students.length + 2 ∧
      (out.progress.map (·.percent)).Pairwise (· ≤ ·) ∧
      out.progress.head?.map (·.percent) = some 0 ∧
      out.progress.getLast?.map (·.percent) = some 100 ∧
      (∀ x ∈ out.progress.dropLast, x.percent ≤ 99) ∧
      ∀ k, 1 ≤ k → k ≤ students.length →
        out.progress[k]?.map (·.percent) = some (min 99 (100 * k / students.length)) ∧
        (share k students.length).toUInt8.toNat = (share k students.length).toNat := by
  refine ⟨_, run_eq p students pool, ?_⟩
  have hprogress : (outcome p (turns p 0 students pool) (poolAfter p students pool)).progress =
      notices students.length := congrArg notices (length_turns p 0 students pool)
  rw [hprogress, reports_eq]
  refine ⟨rfl, by simp [notices], pairwise_percent_notices hsize, rfl, ?_,
    fun x hx => percent_le_of_mem_dropLast hx,
    fun k hpos hk => ⟨?_, toNat_toUInt8_share hk hsize⟩⟩
  · rw [notices, List.getLast?_concat]
    rfl
  · rw [getElem?_notices hpos hk, Option.map_some, ← percent_eq hk hsize]
    rfl

/-- Three students, of whom each is a third that is no whole number of hundredths. -/
def thirds : List Student :=
  [⟨"1", default⟩, ⟨"2", default⟩, ⟨"3", default⟩]

theorem run_progress_thirds :
    100 * thirds.length < USize.size ∧
    ∃ out, run (Policy.plain .deterministic) thirds [] = .ok out ∧ out.progress.length = 5 ∧
      [1, 2, 3].map (fun k : Nat => out.progress[k]?.map (·.percent)) =
        [some 33, some 66, some 99] := by
  have hsize : 100 * thirds.length < USize.size := Nat.lt_of_lt_of_le (by decide) USize.le_size
  obtain ⟨out, hrun, -, hlength, -, -, -, -, hshare⟩ :=
    run_progress (Policy.plain .deterministic) thirds [] hsize
  refine ⟨hsize, out, hrun, hlength, ?_⟩
  simp only [List.map_cons, List.map_nil]
  rw [(hshare 1 (by decide) (by decide)).1, (hshare 2 (by decide) (by decide)).1,
    (hshare 3 (by decide) (by decide)).1]
  rfl

end Mentorship.Matching.Batch
