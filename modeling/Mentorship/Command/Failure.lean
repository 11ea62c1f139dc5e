import Mentorship.FileFault
import Mentorship.Matching.Error
import Mentorship.Policy.Error
import Mentorship.Registration.Error
import Mentorship.Settings.Configuration
import Mentorship.Sheet.File

/-! Why a command fails, with its message and the exit code of the process. -/

namespace Mentorship.Command

inductive Failure where
  | settings (e : Settings.Error)
  | logFilter (filter : String)
  | splitFilter (filter : String)
  | nulVariable (name : String)
  | file (fault : FileFault)
  | sheetFile (fault : FileFault)
  | sheet (fault : Sheet.Fault)
  | policy (e : Policy.Error)
  | matching (e : Matching.Error)
  | registration (e : Registration.Error)
  deriving DecidableEq, Repr

namespace Failure

def message : Failure → String
  | settings e => "configuration error: " ++ e.message
  | logFilter filter => s!"telemetry error: invalid log level/filter '{filter}'"
  | splitFilter filter => s!"log filter '{filter}' is cut inside a character"
  | nulVariable name => s!"variable {name} holds a NUL character"
  | file fault => "io error: " ++ fault.message
  | sheetFile fault => "csv error: " ++ fault.message
  | sheet fault => "csv error: " ++ fault.message
  | policy e => "policy error: " ++ e.message
  | matching e => "allocation error: " ++ e.message
  | registration e => "counter error: " ++ e.message

/-- Breakdowns are not reported as errors of the program. -/
def isBreakdown : Failure → Bool
  | splitFilter _ | nulVariable _ => true
  | _ => false

/-- The line that reports a failure. -/
def line (f : Failure) : String :=
  if f.isBreakdown then f.message else "application error: " ++ f.message

/-- Problems of the policy are told apart from problems of the data. -/
def exitCode : Failure → Nat
  | settings _ | logFilter _ => 2
  | splitFilter _ | nulVariable _ => 101
  | policy _ => 3
  | matching _ | registration _ | sheetFile _ | sheet _ => 4
  | file _ => 1

end Failure

end Mentorship.Command
