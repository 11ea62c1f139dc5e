import Mentorship.Command.Program
import Mentorship.Proofs.Command.Jobs
import Mentorship.Proofs.Matching.Turns

/-! Refused requests. A request is refused if its settings, its policy, a sheet, its rows, the year
or what is worked out from them cannot be used, each of them judged on the files before the run. All
that is done up to there only prepares, so a refused request leaves the files as they were, whichever
of its inputs are bad and however many; any other comes to writing. -/

namespace Mentorship.Command

open Job (Prepares Writes)
open Settings (Configuration)

/-! ### Inputs -/

/-- Whether something that can fail does. -/
def Fails {ε α : Type} (x : Except ε α) : Prop :=
  ∃ e, x = .error e

theorem Fails.ne_ok {ε α : Type} {x : Except ε α} (h : Fails x) (a : α) : x ≠ .ok a := by
  obtain ⟨e, rfl⟩ := h
  nofun

theorem not_fails_iff {ε α : Type} {x : Except ε α} : ¬Fails x ↔ ∃ a, x = .ok a := by
  cases x <;> simp [Fails]

namespace World

variable (w : World)

def settings : Except Failure Configuration :=
  (configure w.toSurroundings).resultOn w.tree

def policy (choice : PolicyChoice) : Except Failure Policy := do
  (loadPolicy (← w.settings) choice).resultOn w.tree

def sheet (path : String) : Except Failure Sheet :=
  (readSheet path).resultOn w.tree

def rows {α : Type} (ofSheet : Sheet → Except Registration.Error α) (path : String) :
    Except Failure α :=
  (readRows ofSheet path).resultOn w.tree

def optionalRows {α : Type} (ofSheet : Sheet → Except Registration.Error α) (absent : α)
    (path : Option String) : Except Failure α :=
  (readOptional ofSheet absent path).resultOn w.tree

end World

/-- What an allocation is refused for. -/
inductive AllocateRequest.IsRefused (w : World) (r : AllocateRequest) : Prop where
  | settings (h : Fails w.settings)
  | policy (h : Fails (w.policy r.policy))
  | studentSheet (h : Fails (w.sheet r.students))
  | poolSheet (h : Fails (w.sheet r.pool))
  | students {p : Policy} {s : Sheet} (hp : w.policy r.policy = .ok p)
      (hs : w.sheet r.students = .ok s) (h : Fails (Matching.Student.ofSheet s p))
  | mentors {p : Policy} {s : Sheet} (hp : w.policy r.policy = .ok p)
      (hs : w.sheet r.pool = .ok s) (h : Fails (Matching.Mentor.ofSheet s p))

/-- What a call for registration ids is refused for. -/
inductive CounterRequest.IsRefused (w : World) (r : CounterRequest) : Prop where
  | settings (h : Fails w.settings)
  | policy (h : Fails (w.policy r.policy))
  | roster (h : Fails (w.rows Registration.Entry.ofSheet r.roster))
  | prior (h : Fails (w.optionalRows Registration.Prior.ofSheet ∅ r.prior))
  | current (h : Fails (w.optionalRows Registration.currentOfSheet [] r.current))
  | year {c : Configuration} (hc : w.settings = .ok c)
      (h : Registration.Year.offset? (academicYear w.toSurroundings c r) = none)
  | ids {c : Configuration} {p : Policy} {a : Registration.Assigner}
      {roster : List Registration.Entry} {prior : Registration.Prior} {current : List String}
      (hc : w.settings = .ok c) (hp : w.policy r.policy = .ok p)
      (ha : Registration.Assigner.ofYear (academicYear w.toSurroundings c r) p.genderCodes = .ok a)
      (hroster : w.rows Registration.Entry.ofSheet r.roster = .ok roster)
      (hprior : w.optionalRows Registration.Prior.ofSheet ∅ r.prior = .ok prior)
      (hcurrent : w.optionalRows Registration.currentOfSheet [] r.current = .ok current)
      (h : Fails (a.assign roster prior current))

/-- What a request is refused for. -/
def Request.IsRefused (w : World) : Request → Prop
  | .allocate r => r.IsRefused w
  | .counter r => r.IsRefused w
  | .check choice => Fails (w.policy choice)
  | .version => False
  | .help => False

/-! ### Everything up to writing prepares -/

theorem filterFailure_ne_file (filter : String) (e : Settings.LogFilter.Fault) (fault : FileFault) :
    filterFailure filter e ≠ .file fault := by
  cases e <;> nofun

theorem prepares_checkLogFilter (env : Settings.Environment) (c : Configuration) :
    (Job.ofExcept (checkLogFilter env c)).Prepares := by
  have hconfigured := Prepares.ofMapError (filterFailure_ne_file c.logLevel)
    (Settings.LogFilter.read c.logLevel)
  unfold checkLogFilter
  split
  · exact hconfigured
  · split
    · exact .pure ()
    · exact hconfigured
    · exact .ofExcept fun _ h => by cases h

theorem prepares_variables (w : Surroundings) : w.variables.Prepares := by
  refine (Prepares.read variablesFile).bind fun found => ?_
  cases found with
  | ok bytes => exact .ofMapError (fun e => by cases e; nofun) _
  | error fault => exact .pure _

theorem prepares_configure (w : Surroundings) : (configure w).Prepares :=
  (prepares_variables w).bind fun _ => (Prepares.ofMapError nofun _).bind fun _ =>
    (prepares_checkLogFilter _ _).bind fun _ => .pure _

theorem prepares_loadPolicy (c : Configuration) (choice : PolicyChoice) :
    (loadPolicy c choice).Prepares :=
  (Prepares.read _).bind fun _ => .ofMapError nofun _

theorem prepares_readSheet (path : String) : (readSheet path).Prepares :=
  (Prepares.read path).bind fun _ => (Prepares.ofMapError nofun _).bind fun _ =>
    .ofMapError nofun _

section Rows
variable {α : Type} (ofSheet : Sheet → Except Registration.Error α)

theorem prepares_readRows (path : String) : (readRows ofSheet path).Prepares :=
  (prepares_readSheet path).bind fun _ => .ofMapError nofun _

theorem prepares_readOptional (absent : α) (path : Option String) :
    (readOptional ofSheet absent path).Prepares := by
  cases path with
  | none => exact .pure absent
  | some path => exact prepares_readRows ofSheet path

end Rows

theorem prepares_matchSheets (c : Configuration) (r : AllocateRequest) :
    (matchSheets c r).Prepares :=
  (prepares_loadPolicy c r.policy).bind fun _ => (prepares_readSheet r.students).bind fun _ =>
    (prepares_readSheet r.pool).bind fun _ => .ofMapError nofun _

theorem prepares_issueIds (w : Surroundings) (c : Configuration) (r : CounterRequest) :
    (issueIds w c r).Prepares :=
  (prepares_loadPolicy c r.policy).bind fun _ => (prepares_readRows _ r.roster).bind fun _ =>
    (prepares_readOptional _ _ r.prior).bind fun _ =>
      (prepares_readOptional _ _ r.current).bind fun _ =>
        (Prepares.ofMapError nofun _).bind fun _ =>
          .ofMapError nofun _

/-! ### Writing -/

theorem writes_write (directory name text : String) : (Job.write directory name text).Writes :=
  .change _

theorem writes_writeOutcome (w : Surroundings) (directory : String) (outcome : Matching.Outcome) :
    (writeOutcome w directory outcome).Writes :=
  (Writes.change _).bind fun _ => (writes_write ..).bind fun _ => (writes_write ..).bind fun _ =>
    (writes_write ..).bind fun _ => (writes_write ..).bind fun _ => writes_write ..

theorem writes_publishOutcome (w : Surroundings) (directory : String) (outcome : Matching.Outcome) :
    (publishOutcome w directory outcome).Writes :=
  (writes_writeOutcome w directory outcome).bind fun _ => .pure _

theorem writes_writeIssue (directory : String) (issue : Registration.Issue) :
    (writeIssue directory issue).Writes :=
  (Writes.change _).bind fun _ => (writes_write ..).bind fun _ => writes_write ..

theorem writes_publishIssue (year : Nat) (directory : String) (issue : Registration.Issue) :
    (publishIssue year directory issue).Writes :=
  (writes_writeIssue directory issue).bind fun _ => .pure _

/-! ### When a request is refused -/

variable (w : World)

theorem policy_eq_ok_iff {choice : PolicyChoice} {p : Policy} :
    w.policy choice = .ok p ↔
      ∃ c, w.settings = .ok c ∧ (loadPolicy c choice).resultOn w.tree = .ok p :=
  bind_eq_ok_iff

/-- A policy is loaded exactly if checking it is not refused. -/
theorem exists_loadPolicy_iff (choice : PolicyChoice) :
    (∃ c p, w.settings = .ok c ∧ (loadPolicy c choice).resultOn w.tree = .ok p) ↔
      ¬Fails (w.policy choice) := by
  rw [not_fails_iff, exists_comm]
  exact exists_congr fun _ => (policy_eq_ok_iff w).symm

theorem resultOn_matchSheets (c : Configuration) (r : AllocateRequest) (t : FileTree) :
    (matchSheets c r).resultOn t = (do
      let p ← (loadPolicy c r.policy).resultOn t
      let students ← (readSheet r.students).resultOn t
      let pool ← (readSheet r.pool).resultOn t
      (Matching.Batch.runSheets p students pool).mapError .matching) := by
  simp only [matchSheets, (prepares_loadPolicy _ _).resultOn_bind,
    (prepares_readSheet _).resultOn_bind]
  rfl

/-- Sheets are matched exactly if the rows of both can be used. -/
theorem exists_runSheets_iff {p : Policy} {students pool : Sheet} :
    (∃ out, Matching.Batch.runSheets p students pool = .ok out) ↔
      (∃ ss, Matching.Student.ofSheet students p = .ok ss) ∧
        ∃ ms, Matching.Mentor.ofSheet pool p = .ok ms := by
  simp only [Matching.Batch.runSheets, bind_eq_ok_iff, Matching.Batch.run_eq]
  constructor
  · rintro ⟨out, ss, hss, ms, hms, -⟩
    exact ⟨⟨ss, hss⟩, ms, hms⟩
  · rintro ⟨⟨ss, hss⟩, ms, hms⟩
    exact ⟨_, ss, hss, ms, hms, rfl⟩

/-- An allocation is matched exactly if it is not refused. -/
theorem exists_matchSheets_iff (r : AllocateRequest) :
    (∃ c out, w.settings = .ok c ∧ (matchSheets c r).resultOn w.tree = .ok out) ↔
      ¬r.IsRefused w := by
  simp only [resultOn_matchSheets, bind_eq_ok_iff, mapError_eq_ok_iff]
  constructor
  · rintro ⟨c, out, hc, p, hload, s, hs, m, hm, hout⟩ hrefused
    have hp : w.policy r.policy = .ok p := (policy_eq_ok_iff w).mpr ⟨c, hc, hload⟩
    obtain ⟨⟨ss, hss⟩, ms, hms⟩ := exists_runSheets_iff.mp ⟨out, hout⟩
    cases hrefused with
    | settings h => exact h.ne_ok c hc
    | policy h => exact h.ne_ok p hp
    | studentSheet h => exact h.ne_ok s hs
    | poolSheet h => exact h.ne_ok m hm
    | students hp' hs' h =>
      cases hp.symm.trans hp'
      cases hs.symm.trans hs'
      exact h.ne_ok ss hss
    | mentors hp' hm' h =>
      cases hp.symm.trans hp'
      cases hm.symm.trans hm'
      exact h.ne_ok ms hms
  · intro hrefused
    obtain ⟨p, hp⟩ := not_fails_iff.mp (mt .policy hrefused)
    obtain ⟨s, hs⟩ := not_fails_iff.mp (mt .studentSheet hrefused)
    obtain ⟨m, hm⟩ := not_fails_iff.mp (mt .poolSheet hrefused)
    have hss := not_fails_iff.mp (mt (.students hp hs) hrefused)
    have hms := not_fails_iff.mp (mt (.mentors hp hm) hrefused)
    obtain ⟨out, hout⟩ := exists_runSheets_iff.mpr ⟨hss, hms⟩
    obtain ⟨c, hc, hload⟩ := (policy_eq_ok_iff w).mp hp
    exact ⟨c, out, hc, p, hload, s, hs, m, hm, hout⟩

theorem resultOn_issueIds (s : Surroundings) (c : Configuration) (r : CounterRequest)
    (t : FileTree) :
    (issueIds s c r).resultOn t = (do
      let p ← (loadPolicy c r.policy).resultOn t
      let roster ← (readRows Registration.Entry.ofSheet r.roster).resultOn t
      let prior ← (readOptional Registration.Prior.ofSheet ∅ r.prior).resultOn t
      let current ← (readOptional Registration.currentOfSheet [] r.current).resultOn t
      let a ← (Registration.Assigner.ofYear (academicYear s c r) p.genderCodes).mapError
        .registration
      (a.assign roster prior current).mapError .registration) := by
  simp only [issueIds, (prepares_loadPolicy _ _).resultOn_bind,
    (prepares_readRows _ _).resultOn_bind, (prepares_readOptional _ _ _).resultOn_bind,
    Job.resultOn_ofExcept_bind]
  rfl

theorem exists_ofYear_iff {year : Nat} (codes : Policy.GenderCodes) :
    (∃ a, Registration.Assigner.ofYear year codes = .ok a) ↔
      Registration.Year.offset? year ≠ none := by
  unfold Registration.Assigner.ofYear
  cases Registration.Year.offset? year <;> simp

/-- Registration ids are issued exactly if a call for them is not refused. -/
theorem exists_issueIds_iff (r : CounterRequest) :
    (∃ c issue, w.settings = .ok c ∧
      (issueIds w.toSurroundings c r).resultOn w.tree = .ok issue) ↔ ¬r.IsRefused w := by
  simp only [resultOn_issueIds, bind_eq_ok_iff, mapError_eq_ok_iff]
  constructor
  · rintro ⟨c, issue, hc, p, hload, roster, hroster, prior, hprior, current, hcurrent, a, ha,
      hissue⟩ hrefused
    have hp : w.policy r.policy = .ok p := (policy_eq_ok_iff w).mpr ⟨c, hc, hload⟩
    cases hrefused with
    | settings h => exact h.ne_ok c hc
    | policy h => exact h.ne_ok p hp
    | roster h => exact h.ne_ok roster hroster
    | prior h => exact h.ne_ok prior hprior
    | current h => exact h.ne_ok current hcurrent
    | year hc' h =>
      cases hc.symm.trans hc'
      exact (exists_ofYear_iff p.genderCodes).mp ⟨a, ha⟩ h
    | ids hc' hp' ha' hroster' hprior' hcurrent' h =>
      cases hc.symm.trans hc'
      cases hp.symm.trans hp'
      cases ha.symm.trans ha'
      cases hroster.symm.trans hroster'
      cases hprior.symm.trans hprior'
      cases hcurrent.symm.trans hcurrent'
      exact h.ne_ok issue hissue
  · intro hrefused
    obtain ⟨p, hp⟩ := not_fails_iff.mp (mt .policy hrefused)
    obtain ⟨roster, hroster⟩ := not_fails_iff.mp (mt .roster hrefused)
    obtain ⟨prior, hprior⟩ := not_fails_iff.mp (mt .prior hrefused)
    obtain ⟨current, hcurrent⟩ := not_fails_iff.mp (mt .current hrefused)
    obtain ⟨c, hc, hload⟩ := (policy_eq_ok_iff w).mp hp
    obtain ⟨a, ha⟩ := (exists_ofYear_iff p.genderCodes).mpr (mt (.year hc) hrefused)
    obtain ⟨issue, hissue⟩ :=
      not_fails_iff.mp (mt (.ids hc hp ha hroster hprior hcurrent) hrefused)
    exact ⟨c, issue, hc, p, hload, roster, hroster, prior, hprior, current, hcurrent, a, ha,
      hissue⟩

/-! ### Runs -/

/-- A request is either refused, and no file is changed, or fails for nothing but files that cannot
be written. -/
theorem command_cases (request : Request) :
    (¬request.IsRefused w ∧ ∀ f, (command w.toSurroundings request).resultOn w.tree = .error f →
      ∃ fault, f = .file fault) ∨
    (request.IsRefused w ∧ ∃ f, (∀ fault, f ≠ .file fault) ∧
      (command w.toSurroundings request).runOn w.tree = (.error f, w.tree)) := by
  have hsettings := prepares_configure w.toSurroundings
  cases request with
  | version => exact .inl ⟨id, (Writes.pure _).eq_file w.tree⟩
  | help => exact .inl ⟨id, (Writes.pure _).eq_file w.tree⟩
  | allocate r =>
    exact hsettings.runOn_cases (prepares_matchSheets · r)
      (fun c => writes_publishOutcome w.toSurroundings (r.out.getD c.output))
      (exists_matchSheets_iff w r)
  | counter r =>
    exact hsettings.runOn_cases (prepares_issueIds w.toSurroundings · r)
      (fun c => writes_publishIssue (academicYear w.toSurroundings c r) (r.out.getD c.output))
      (exists_issueIds_iff w r)
  | check choice =>
    exact hsettings.runOn_cases (prepares_loadPolicy · choice)
      (fun _ p => .pure (policyLines p)) (exists_loadPolicy_iff w choice)

/-- Failures other than that of writing have exit codes of their own. -/
theorem Failure.one_lt_exitCode {f : Failure} (hf : ∀ fault, f ≠ .file fault) :
    1 < f.exitCode := by
  cases f with
  | file fault => exact absurd rfl (hf fault)
  | _ => simp [exitCode]

/-- A refused request changes no file and makes no directory; the process says why, and ends with an
exit code that other requests never end with. -/
theorem run_refused {arguments : List String} {request : Request}
    (hrequest : Request.ofArguments? arguments = some request) :
    (request.IsRefused w → (run w arguments).tree = w.tree ∧
      ∃ f : Failure, 1 < f.exitCode ∧
        run w arguments = ⟨f.exitCode, "", linesText [f.line], w.tree⟩) ∧
    (¬request.IsRefused w → (run w arguments).exit ≤ 1) := by
  rcases command_cases w request with ⟨haccepted, hwrites⟩ | ⟨hrefused, f, hf, hrun⟩
  · refine ⟨fun h => absurd h haccepted, fun _ => ?_⟩
    rcases h : (command w.toSurroundings request).runOn w.tree with ⟨f | lines, t⟩
    · obtain ⟨fault, rfl⟩ := hwrites f (congrArg Prod.fst h)
      have hresult : run w arguments = failed t (.file fault) := by
        simp only [run, hrequest, h]
      rw [hresult]
      exact Nat.le_refl 1
    · have hresult : run w arguments = ⟨0, linesText lines, "", t⟩ := by
        simp only [run, hrequest, h]
      rw [hresult]
      exact Nat.zero_le 1
  · refine ⟨fun _ => ?_, fun h => absurd hrefused h⟩
    have hresult : run w arguments = failed w.tree f := by simp only [run, hrequest, hrun]
    exact ⟨congrArg Result.tree hresult, f, Failure.one_lt_exitCode hf, hresult⟩

/-- Files among which there is a sheet of students, and neither a policy nor a pool. -/
def loneStudents : World where
  environment := ∅
  today := ⟨2024, 10, 1⟩
  startedAt := ""
  finishedAt := ""
  tree := ⟨[(["students.csv"], [105, 100, 10])], [], []⟩

theorem run_refused_loneStudents :
    let arguments := ["allocate", "--students", "students.csv", "--pool", "pool.csv"]
    let request : AllocateRequest := ⟨"students.csv", "pool.csv", ⟨none, false⟩, none⟩
    Request.ofArguments? arguments = some (.allocate request) ∧ request.IsRefused loneStudents ∧
      (run loneStudents arguments).tree = loneStudents.tree := by
  intro arguments request
  have hrequest : Request.ofArguments? arguments = some (.allocate request) := by rfl
  have hpool : Fails (loneStudents.sheet request.pool) := ⟨.sheetFile .notFound, by decide +kernel⟩
  exact ⟨hrequest, .poolSheet hpool, ((run_refused loneStudents hrequest).1 (.poolSheet hpool)).1⟩

end Mentorship.Command
