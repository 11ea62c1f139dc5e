import Mentorship.Registration.Assignment

/-! Histories: runs one after another, each of which may add the ids it gives to the records that
later runs start from. -/

namespace Mentorship.Registration

open Policy (GenderCodes)

/-- What a run starts from: the ids of the prior year, and those issued in the current one. -/
structure Records where
  prior : Prior
  current : List String
  deriving DecidableEq, Repr

/-- Where the ids of a run are recorded. -/
inductive Carry where
  | prior | current | nowhere
  deriving DecidableEq, Repr

structure Run where
  academicYear : Nat
  roster : List Entry
  carry : Carry
  deriving DecidableEq, Repr

/-- Puts every assignment; of several for one student the last counts. -/
def Prior.putAll (as : List Assignment) (prior : Prior) : Prior :=
  as.foldl (fun p a => p.insert a.nationalId a.id) prior

namespace Records

def record (r : Records) (as : List Assignment) : Carry → Records
  | .prior => { r with prior := r.prior.putAll as }
  | .current => { r with current := r.current ++ as.map (·.id) }
  | .nowhere => r

def issue (codes : GenderCodes) (r : Records) (x : Run) : Except Error Issue := do
  let a ← Assigner.ofYear x.academicYear codes
  a.assign x.roster r.prior r.current

/-- Carries out a run; one that fails leaves the records as they were. -/
def step (codes : GenderCodes) (r : Records) (x : Run) : Except Error Issue × Records :=
  match r.issue codes x with
  | .ok issue => (.ok issue, r.record issue.assignments x.carry)
  | .error e => (.error e, r)

/-- The results of runs in turn, and the records after them. -/
def run (codes : GenderCodes) (r : Records) : List Run → List (Except Error Issue) × Records
  | [] => ([], r)
  | x :: xs =>
    let (result, r) := r.step codes x
    let (results, r) := r.run codes xs
    (result :: results, r)

end Records

end Mentorship.Registration
