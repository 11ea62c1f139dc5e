import Mentorship.Command.Date

/-! Requests given on the command line. -/

namespace Mentorship.Command

open Text

/-- Which policy to use, and whether to fill its gaps with defaults. -/
structure PolicyChoice where
  path : Option String
  migrate : Bool
  deriving DecidableEq, Repr

structure AllocateRequest where
  students : String
  pool : String
  policy : PolicyChoice
  out : Option String
  deriving DecidableEq, Repr

structure CounterRequest where
  roster : String
  prior : Option String
  current : Option String
  year : Option Nat
  asOf : Option Date
  policy : PolicyChoice
  out : Option String
  deriving DecidableEq, Repr

inductive Request where
  | allocate (r : AllocateRequest)
  | counter (r : CounterRequest)
  | check (policy : PolicyChoice)
  | version
  | help
  deriving DecidableEq, Repr

namespace Request

/-! ### Options -/

/-- An option by name, and the value that follows it if it takes one. -/
structure Given where
  name : String
  value : Option String
  deriving DecidableEq, Repr

/-- What a command accepts: options with the values that they may take, and flags. -/
structure Options where
  valued : List (String × (String → Bool))
  flags : List String

/-- What comes of the arguments of a command: its options, a call for help, or a refusal. -/
inductive Gathered where
  | options (given : List Given)
  | help
  | refused
  deriving DecidableEq, Repr

/-- The name and the value of `name=value`. -/
def splitValue (cs : List Char) : String × Option String :=
  (String.ofList (cs.takeWhile (· != '=')),
    (cs.dropWhile (· != '=')).tail?.map String.ofList)

def looksLikeOption (argument : String) : Bool :=
  match argument.toList with
  | '-' :: _ :: _ => true
  | _ => false

/-- Reads options up to the end or a call for help, each at most once; `pending` is an option that
waits for its value, and the values that it may take. -/
def gather (o : Options) (pending : Option (String × (String → Bool))) (given : List Given) :
    List String → Gathered
  | [] => if pending.isSome then .refused else .options given
  | argument :: rest =>
    match pending with
    | some (name, accepts) =>
      if looksLikeOption argument || !accepts argument then .refused
      else gather o none (given ++ [⟨name, some argument⟩]) rest
    | none =>
      match argument.toList with
      | ['-', '-'] => if rest.isEmpty then .options given else .refused
      | '-' :: '-' :: cs =>
        let (name, value) := splitValue cs
        if given.any (·.name == name) then .refused
        else if let some accepts := o.valued.lookup name then
          match value with
          | some v =>
            if accepts v then gather o none (given ++ [⟨name, some v⟩]) rest else .refused
          | none => gather o (some (name, accepts)) given rest
        else if value.isSome then .refused
        else if o.flags.contains name then gather o none (given ++ [⟨name, none⟩]) rest
        else if name == "help" then .help
        else .refused
      | '-' :: 'h' :: _ => .help
      | _ => .refused

def value? (given : List Given) (name : String) : Option String :=
  (given.find? (·.name == name)).bind (·.value)

def hasFlag (given : List Given) (name : String) : Bool :=
  given.any (·.name == name)

/-! ### Values -/

/-- Reads an option that may be left out. -/
def optional? {α : Type} (read? : String → Option α) : Option String → Option (Option α)
  | none => some none
  | some s => (read? s).map some

/-- A path, which is not empty. -/
def path? (s : String) : Option String :=
  if s.isEmpty then none else some s

def greatestYear : Int := 65535

def year? (s : String) : Option Nat :=
  (Number.integerWithin? 0 greatestYear s).map Int.toNat

/-! ### Commands -/

def isPath (s : String) : Bool := (path? s).isSome

def isYear (s : String) : Bool := (year? s).isSome

def isDate (s : String) : Bool := (Date.ofText? s).isSome

def policyOptions : Options := ⟨[("policy", isPath)], ["migrate"]⟩

def allocateOptions : Options :=
  ⟨[("students", isPath), ("pool", isPath), ("policy", isPath), ("out", isPath)], ["migrate"]⟩

def counterOptions : Options :=
  ⟨[("roster", isPath), ("prior", isPath), ("current", isPath), ("year", isYear),
    ("as-of", isDate), ("policy", isPath), ("out", isPath)], ["migrate"]⟩

def policyChoice? (given : List Given) : Option PolicyChoice := do
  return ⟨← optional? path? (value? given "policy"), hasFlag given "migrate"⟩

def allocate? (given : List Given) : Option Request := do
  return .allocate {
    students := ← path? (← value? given "students")
    pool := ← path? (← value? given "pool")
    policy := ← policyChoice? given
    out := ← optional? path? (value? given "out") }

def counter? (given : List Given) : Option Request := do
  return .counter {
    roster := ← path? (← value? given "roster")
    prior := ← optional? path? (value? given "prior")
    current := ← optional? path? (value? given "current")
    year := ← optional? year? (value? given "year")
    asOf := ← optional? Date.ofText? (value? given "as-of")
    policy := ← policyChoice? given
    out := ← optional? path? (value? given "out") }

def check? (given : List Given) : Option Request := do
  return .check (← policyChoice? given)

def command? (o : Options) (build? : List Given → Option Request) (arguments : List String) :
    Option Request :=
  match gather o none [] arguments with
  | .options given => build? given
  | .help => some .help
  | .refused => none

def isHelp (argument : String) : Bool :=
  argument == "--help" || argument.startsWith "-h"

/-- What may be asked about of the commands on policies, as words after a call for help. -/
def policyTopics : List (List String) :=
  [[], ["check"], ["help"]]

def topics : List (List String) :=
  [[], ["allocate"], ["counter"], ["help"]] ++ policyTopics.map ("policy" :: ·)

/-- Reads the arguments; there is no request where they are not well-formed. -/
def ofArguments? : List String → Option Request
  | "allocate" :: rest => command? allocateOptions allocate? rest
  | "counter" :: rest => command? counterOptions counter? rest
  | "policy" :: "check" :: rest => command? policyOptions check? rest
  | "policy" :: "help" :: topic => if policyTopics.contains topic then some .help else none
  | "policy" :: argument :: _ => if isHelp argument then some .help else none
  | "help" :: topic => if topics.contains topic then some .help else none
  | argument :: _ =>
    if argument == "--version" || argument.startsWith "-V" then some .version
    else if isHelp argument then some .help
    else none
  | [] => none

/-! ### Files -/

/-- The files that a request names to be read. -/
def inputs : Request → List String
  | .allocate r => r.students :: r.pool :: r.policy.path.toList
  | .counter r => r.roster :: (r.prior.toList ++ r.current.toList ++ r.policy.path.toList)
  | .check policy => policy.path.toList
  | .version => []
  | .help => []

/-- The directory that a request names to be written to. -/
def output? : Request → Option String
  | .allocate r => r.out
  | .counter r => r.out
  | _ => none

end Request

end Mentorship.Command
