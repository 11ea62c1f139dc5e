import Mentorship.Command.Job
import Mentorship.Command.Request
import Mentorship.Matching.Batch
import Mentorship.Matching.Tables
import Mentorship.Policy.Store
import Mentorship.Registration.Tables
import Mentorship.Settings.LogFilter
import Mentorship.Settings.Variables

/-! The program as a function of its arguments, its environment and the files around it: a request
is a job that reads its inputs, works out what they come to, and writes that. -/

namespace Mentorship.Command

open Settings

/-- What surrounds a run besides files: variables, the date, and the times at which a batch starts
and ends. -/
structure Surroundings where
  environment : Environment
  today : Date
  startedAt : String
  finishedAt : String

/-- What a run starts from. -/
structure World extends Surroundings where
  tree : FileTree

/-! ### Preparation -/

def variablesFile : String := ".env"

def variablesFailure : Variables.Fault → Failure
  | .nulInValue name => .nulVariable name

/-- The variables of the environment and of a file beside it. -/
def Surroundings.variables (w : Surroundings) : Job Environment := do
  match ← Job.read variablesFile with
  | .ok bytes => Job.ofExcept ((Variables.load bytes w.environment).mapError variablesFailure)
  | .error _ => return w.environment

def filterFailure (filter : String) : LogFilter.Fault → Failure
  | .malformed => .logFilter filter
  | .splitCharacter => .splitFilter filter

/-- The filter set for this run takes precedence if it is one; otherwise the configured level has to
be. -/
def checkLogFilter (env : Environment) (c : Configuration) : Except Failure Unit :=
  let configured := (LogFilter.read c.logLevel).mapError (filterFailure c.logLevel)
  match env.find? "RUST_LOG" with
  | none => configured
  | some filter =>
    match LogFilter.read filter with
    | .ok () => .ok ()
    | .error .malformed => configured
    | .error .splitCharacter => .error (.splitFilter filter)

def configure (w : Surroundings) : Job Configuration := do
  let env ← w.variables
  let c ← Job.ofExcept ((Configuration.ofEnvironment env).mapError .settings)
  Job.ofExcept (checkLogFilter env c)
  return c

def loadPolicy (c : Configuration) (choice : PolicyChoice) : Job Policy := do
  let path := choice.path.getD c.policyPath
  let mode := if choice.migrate then .migrate else c.policyMode
  let source : Policy.Source := (← Job.read path).map fun bytes => ⟨bytes, 0⟩
  Job.ofExcept ((Policy.ofSource mode path source).mapError .policy)

def readSheet (path : String) : Job Sheet := do
  let bytes ← Job.ofExcept ((← Job.read path).mapError .sheetFile)
  Job.ofExcept ((Sheet.ofBytes bytes).mapError .sheet)

/-! ### Allocation -/

def summaryJson (w : Surroundings) (s : Matching.Summary) : Json.Value :=
  .object [("policy_version", .string s.policyVersion), ("students", .int s.students),
    ("allocated", .int s.allocated), ("eligibility_no_match", .int s.noMatch),
    ("capacity_full", .int s.full), ("mentors", .int s.mentors),
    ("remaining_capacity", .int s.remaining), ("started_at", .string w.startedAt),
    ("finished_at", .string w.finishedAt)]

/-- Matches the students of one sheet with the mentors of another. -/
def matchSheets (c : Configuration) (r : AllocateRequest) : Job Matching.Outcome := do
  let policy ← loadPolicy c r.policy
  let students ← readSheet r.students
  let pool ← readSheet r.pool
  Job.ofExcept ((Matching.Batch.runSheets policy students pool).mapError .matching)

def writeOutcome (w : Surroundings) (directory : String) (outcome : Matching.Outcome) :
    Job Unit := do
  Job.makeDirectories directory
  Job.write directory "allocations.csv" (Matching.Tables.placements outcome.placements)
  Job.write directory "pool.csv" (Matching.Tables.pool outcome.pool)
  Job.write directory "log.csv" (Matching.Tables.log outcome.log)
  Job.write directory "trace.csv" (Matching.Tables.trace outcome.trace)
  Job.write directory "summary.json" (summaryJson w outcome.summary).text

/-- Writes the tables of an allocation and tells of them. -/
def publishOutcome (w : Surroundings) (directory : String) (outcome : Matching.Outcome) :
    Job (List String) := do
  writeOutcome w directory outcome
  let s := outcome.summary
  return [s!"Allocation batch (policy {s.policyVersion})",
    s!"- {s.students} student(s): {s.allocated} allocated | " ++
      s!"{s.noMatch} no eligible mentor | {s.full} capacity full",
    s!"- {s.mentors} mentor(s) with {s.remaining} seat(s) remaining",
    s!"- outputs written to {directory}"]

def allocate (w : Surroundings) (c : Configuration) (r : AllocateRequest) :
    Job (List String) := do
  publishOutcome w (r.out.getD c.output) (← matchSheets c r)

/-! ### Registration ids -/

def academicYear (w : Surroundings) (c : Configuration) (r : CounterRequest) : Nat :=
  (r.year.or c.academicYear).getD (r.asOf.getD w.today).academicYear

/-- Reads a sheet and its rows. -/
def readRows {α : Type} (ofSheet : Sheet → Except Registration.Error α) (path : String) :
    Job α := do
  Job.ofExcept ((ofSheet (← readSheet path)).mapError .registration)

/-- Reads a sheet that may be left out. -/
def readOptional {α : Type} (ofSheet : Sheet → Except Registration.Error α) (absent : α) :
    Option String → Job α
  | none => return absent
  | some path => readRows ofSheet path

def genderLine (s : Registration.GenderSummary) : String :=
  s!"- {s.gender.label} ({s.code}): {s.tally.reused} reused | {s.tally.minted} minted | " ++
    s!"{s.tally.memoized} repeated | next sequence {s.tally.next}"

/-- Gives an id to every row of a roster. -/
def issueIds (w : Surroundings) (c : Configuration) (r : CounterRequest) :
    Job Registration.Issue := do
  let policy ← loadPolicy c r.policy
  let roster ← readRows Registration.Entry.ofSheet r.roster
  let prior ← readOptional Registration.Prior.ofSheet ∅ r.prior
  let current ← readOptional Registration.currentOfSheet [] r.current
  let assigner ← Job.ofExcept
    ((Registration.Assigner.ofYear (academicYear w c r) policy.genderCodes).mapError
      .registration)
  Job.ofExcept ((assigner.assign roster prior current).mapError .registration)

def writeIssue (directory : String) (issue : Registration.Issue) : Job Unit := do
  Job.makeDirectories directory
  Job.write directory "counters.csv" (Registration.Tables.assignments issue.assignments)
  Job.write directory "counter_summary.json" (Registration.Tables.summary issue.summary).text

/-- Writes the tables of an issue and tells of them. -/
def publishIssue (year : Nat) (directory : String) (issue : Registration.Issue) :
    Job (List String) := do
  writeIssue directory issue
  let s := issue.summary
  return s!"Registration ids for academic year {year} ({s.rows} row(s))" :: s.genders.map genderLine

def counter (w : Surroundings) (c : Configuration) (r : CounterRequest) :
    Job (List String) := do
  publishIssue (academicYear w c r) (r.out.getD c.output) (← issueIds w c r)

/-! ### Checking a policy -/

def policyLines (p : Policy) : List String :=
  let keys := ", ".intercalate p.joinKeys
  let wildcard := if p.schoolWildcard then "on" else "off"
  [s!"Policy {p.version.render} is valid", s!"- join keys: {keys}",
    s!"- ranking: {p.rankingChain}", s!"- capacity column: {p.capacityColumn}",
    s!"- school wildcard: {wildcard}"] ++ p.warnings.map ("- migrated: " ++ ·)

def check (c : Configuration) (choice : PolicyChoice) : Job (List String) := do
  return policyLines (← loadPolicy c choice)

/-! ### Runs -/

def versionLine : String := "Mentor Allocator 0.1.0"

def usageLines : List String :=
  ["usage: allocate --students FILE --pool FILE [--policy FILE] [--migrate] [--out DIRECTORY]",
    "       counter --roster FILE [--prior FILE] [--current FILE] [--year YEAR]",
    "               [--as-of YYYY-MM-DD] [--policy FILE] [--migrate] [--out DIRECTORY]",
    "       policy check [--policy FILE] [--migrate]"]

/-- Carries out a request and gives the lines to print. -/
def command (w : Surroundings) : Request → Job (List String)
  | .version => return [versionLine]
  | .help => return usageLines
  | .allocate r => do allocate w (← configure w) r
  | .counter r => do counter w (← configure w) r
  | .check choice => do check (← configure w) choice

/-- How a run ends: exit code, printed texts, and the files afterwards. -/
structure Result where
  exit : Nat
  out : String
  err : String
  tree : FileTree
  deriving DecidableEq, Repr

def linesText (lines : List String) : String :=
  String.join (lines.map (· ++ "\n"))

def failed (t : FileTree) (f : Failure) : Result :=
  ⟨f.exitCode, "", linesText [f.line], t⟩

/-- The exit code of arguments that are no request. -/
def usageExit : Nat := 2

def run (w : World) (arguments : List String) : Result :=
  match Request.ofArguments? arguments with
  | none => ⟨usageExit, "", linesText usageLines, w.tree⟩
  | some request =>
    match (command w.toSurroundings request).runOn w.tree with
    | (.error f, t) => failed t f
    | (.ok lines, t) => ⟨0, linesText lines, "", t⟩

end Mentorship.Command
