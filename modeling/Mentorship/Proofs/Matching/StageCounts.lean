import Mentorship.Proofs.Matching.Screening

/-! What a trace counts. Each record starts from the mentors that all stages before it admit and
ends with those that its own stage admits too, so the counts of the records are those of the pool
under longer and longer beginnings of the stages. -/

namespace Mentorship.Matching

variable (p : Policy) (student : Student)

/-- The mentors that every one of some stages admits. -/
def admitted (stages : List Stage) (ms : List Mentor) : List Mentor :=
  ms.filter fun m => stages.all (admits p student · m)

@[simp] theorem admitted_nil (ms : List Mentor) : admitted p student [] ms = ms := by
  simp [admitted]

theorem admitted_append (stages more : List Stage) (ms : List Mentor) :
    admitted p student (stages ++ more) ms =
      admitted p student more (admitted p student stages ms) := by
  simp [admitted, List.filter_filter, Bool.and_comm]

theorem admitted_singleton (s : Stage) (ms : List Mentor) :
    admitted p student [s] ms = ms.filter (admits p student s) := by
  simp [admitted]

/-- One stage more leaves those of the mentors left that it admits. -/
theorem admitted_take_add_one {stages : List Stage} {k : Nat} {s : Stage}
    (hs : stages[k]? = some s) (ms : List Mentor) :
    admitted p student (stages.take (k + 1)) ms =
      (admitted p student (stages.take k) ms).filter (admits p student s) := by
  rw [List.take_add_one, hs, admitted_append, Option.toList_some, admitted_singleton]

theorem length_admitted (stages : List Stage) (ms : List Mentor) :
    (admitted p student stages ms).length =
      ms.countP fun m => stages.all (admits p student · m) :=
  List.countP_eq_length_filter.symm

/-- More stages admit no more mentors. -/
theorem length_admitted_take_le {j k : Nat} (hjk : j ≤ k) (stages : List Stage)
    (ms : List Mentor) :
    (admitted p student (stages.take k) ms).length ≤
      (admitted p student (stages.take j) ms).length := by
  obtain ⟨d, rfl⟩ := Nat.exists_eq_add_of_le hjk
  rw [List.take_add, admitted_append]
  exact List.length_filter_le _ _

namespace Trace

/-- The record of a stage that some mentors reach and others pass. -/
def record (s : Stage) (before after : List Mentor) : TraceRecord where
  studentId := student.id
  stage := s
  column := p.stageColumn s
  comparison := s.comparison
  expected := expected p student s
  before := before.length
  after := after.length
  isMatched := 0 < after.length

/-- Record by record, a trace counts what beginnings of its stages leave. -/
theorem getElem?_build (stages : List Stage) (ms : List Mentor) (k : Nat) :
    (build p student stages ms)[k]? = stages[k]?.map fun s =>
      record p student s (admitted p student (stages.take k) ms)
        (admitted p student (stages.take (k + 1)) ms) := by
  induction stages generalizing ms k with
  | nil => rfl
  | cons s stages ih =>
    cases k with
    | zero => simp [build, record, admitted_singleton]
    | succ k =>
      have hsplit (n : Nat) : admitted p student ((s :: stages).take (n + 1)) ms =
          admitted p student (stages.take n) (ms.filter (admits p student s)) := by
        rw [List.take_succ_cons, ← List.singleton_append, admitted_append, admitted_singleton]
      rw [build, List.getElem?_cons_succ, List.getElem?_cons_succ, ih, hsplit, hsplit]

theorem exists_stage_of_getElem?_ofPool {pool : List Mentor} {k : Nat} {r : TraceRecord}
    (h : (ofPool p student pool)[k]? = some r) :
    ∃ s, Stage.canonical[k]? = some s ∧
      r = record p student s (admitted p student (Stage.canonical.take k) pool)
        (admitted p student (Stage.canonical.take (k + 1)) pool) := by
  rw [ofPool, getElem?_build, Option.map_eq_some_iff] at h
  obtain ⟨s, hs, rfl⟩ := h
  exact ⟨s, hs, rfl⟩

theorem map_stage_build (stages : List Stage) (ms : List Mentor) :
    (build p student stages ms).map (·.stage) = stages := by
  induction stages generalizing ms with
  | nil => rfl
  | cons s stages ih => simp [build, ih]

/-- Where the school does not matter, the school stage admits everybody. -/
theorem filter_admits_school (h : schoolIsWildcard p student = true) (ms : List Mentor) :
    ms.filter (admits p student .school) = ms := by
  simp [admits, h]

/-- A trace has one record for each of the eight stages, in their order. Whatever the pool, the
record of the `k`-th stage ends with as many mentors as all stages up to it admit; the first record
starts from the whole pool and every other from what the one before it leaves, so the counts never
grow. A record matches exactly if it leaves anybody, and where the school does not matter, the
school stage lets everybody through and says so. -/
theorem ofPool_counts (pool : List Mentor) :
    let records := ofPool p student pool
    (records.length = 8 ∧ records.map (·.stage) = Stage.canonical) ∧
    (∀ k r, records[k]? = some r →
      r.after = pool.countP fun m => (Stage.canonical.take (k + 1)).all (admits p student · m)) ∧
    records.head?.map (·.before) = some pool.length ∧
    (∀ k r r', records[k]? = some r → records[k + 1]? = some r' → r'.before = r.after) ∧
    (∀ r ∈ records, r.after ≤ r.before) ∧
    (∀ (j k : Nat) (r r' : TraceRecord), j ≤ k →
      records[j]? = some r → records[k]? = some r' → r'.after ≤ r.after) ∧
    (∀ r ∈ records, r.isMatched = true ↔ 0 < r.after) ∧
    (schoolIsWildcard p student = true →
      ∀ r ∈ records, r.stage = .school → r.after = r.before ∧ r.expected = "*") := by
  intro records
  have hrecord {k : Nat} {r : TraceRecord} (hr : records[k]? = some r) :=
    exists_stage_of_getElem?_ofPool p student hr
  have hmem {r : TraceRecord} (hr : r ∈ records) : ∃ k : Nat, records[k]? = some r :=
    List.mem_iff_getElem?.mp hr
  refine ⟨⟨length_build p student _ pool, map_stage_build p student _ pool⟩,
    fun k r hr => ?_, ?_, fun k r r' hr hr' => ?_, fun r hr => ?_,
    fun j k r r' hjk hr hr' => ?_, fun r hr => ?_, fun hwild r hr hschool => ?_⟩
  · obtain ⟨s, -, rfl⟩ := hrecord hr
    exact length_admitted p student _ pool
  · rfl
  · obtain ⟨s, -, rfl⟩ := hrecord hr
    obtain ⟨s', -, rfl⟩ := hrecord hr'
    rfl
  · obtain ⟨k, hk⟩ := hmem hr
    obtain ⟨s, -, rfl⟩ := hrecord hk
    exact length_admitted_take_le p student (Nat.le_add_right k 1) _ pool
  · obtain ⟨s, -, rfl⟩ := hrecord hr
    obtain ⟨s', -, rfl⟩ := hrecord hr'
    exact length_admitted_take_le p student (Nat.add_le_add_right hjk 1) _ pool
  · obtain ⟨k, hk⟩ := hmem hr
    obtain ⟨s, -, rfl⟩ := hrecord hk
    exact decide_eq_true_iff
  · obtain ⟨k, hk⟩ := hmem hr
    obtain ⟨s, hs, rfl⟩ := hrecord hk
    obtain rfl : s = .school := hschool
    rw [admitted_take_add_one p student hs, filter_admits_school p student hwild]
    refine ⟨rfl, ?_⟩
    simp [record, expected, hwild, wildcardMark]

end Trace

end Mentorship.Matching
