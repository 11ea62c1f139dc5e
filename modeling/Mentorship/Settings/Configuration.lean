import Mentorship.Dictionary
import Mentorship.Number.Numeral
import Mentorship.Policy.Basic
import Mentorship.Text.Blank
import Mentorship.Text.Lowercase

/-! Settings taken from environment variables, with a default for each. -/

namespace Mentorship.Settings

open Text

/-- Environment variables by name. -/
abbrev Environment := Dictionary String String

inductive Deployment where
  | development | test | production
  deriving DecidableEq, Repr

namespace Deployment

def label : Deployment → String
  | development => "development"
  | test => "test"
  | production => "production"

/-- Any name that is not known means development. -/
def ofText (s : String) : Deployment :=
  let word := lowerAscii (trim s)
  if word == "prod" || word == "production" then production
  else if word == "test" || word == "ci" then test
  else development

end Deployment

inductive Error where
  | invalidPolicyMode (value : String)
  | invalidAcademicYear
  deriving DecidableEq, Repr

def Error.message : Error → String
  | invalidPolicyMode value => s!"APP_POLICY_MODE must be 'strict' or 'migrate' (got '{value}')"
  | invalidAcademicYear => "APP_ACADEMIC_YEAR must be a valid u16"

structure Configuration where
  deployment : Deployment
  policyPath : String
  policyMode : Policy.Mode
  output : String
  logLevel : String
  academicYear : Option Nat
  deriving DecidableEq, Repr

namespace Configuration

/-- An unset variable means strict, and so does a blank one. -/
def readMode : Option String → Except Error Policy.Mode
  | none => .ok .strict
  | some value =>
    let word := lowerAscii (trim value)
    if word == "" || word == "strict" then .ok .strict
    else if word == "migrate" then .ok .migrate
    else .error (.invalidPolicyMode value)

/-- The greatest number that a year may be. -/
def greatestYear : Nat := 65535

def readYear : Option String → Except Error (Option Nat)
  | none => .ok none
  | some value =>
    match Number.naturalUpTo? greatestYear (trim value) with
    | some year => .ok (some year)
    | none => .error .invalidAcademicYear

def ofEnvironment (env : Environment) : Except Error Configuration := do
  let policyMode ← readMode (env.find? "APP_POLICY_MODE")
  let academicYear ← readYear (env.find? "APP_ACADEMIC_YEAR")
  return {
    deployment := .ofText ((env.find? "APP_ENV").getD "development")
    policyPath := (env.find? "APP_POLICY_PATH").getD "config/policy.json"
    policyMode
    output := (env.find? "APP_OUTPUT_DIR").getD "out"
    logLevel := (env.find? "APP_LOG_LEVEL").getD "info"
    academicYear }

end Configuration

end Mentorship.Settings
