import Mentorship.Matching.Candidate
import Mentorship.Policy.Basic

/-! Which mentors a stage admits for a student, and the stages applied one after another until no
candidate is left. -/

namespace Mentorship.Matching

/-- Whether the school stage admits every mentor for this student. -/
def schoolIsWildcard (p : Policy) (student : Student) : Bool :=
  p.schoolWildcard && (student.profile.get .school).isMissingOrZero

/-- Whether a stage lets a mentor through for a student. -/
def admits (p : Policy) (student : Student) (s : Stage) (m : Mentor) : Bool :=
  match s with
  | .capacityGate => m.hasSeat
  | .school => schoolIsWildcard p student || (student.profile.get .school).agrees m.profile.school
  | s => (student.profile.get s).agrees (m.profile.get s)

/-- Whether all seven eligibility stages let a mentor through. -/
def isEligible (p : Policy) (student : Student) (m : Mentor) : Bool :=
  Stage.eligibility.all (admits p student · m)

structure StageCount where
  stage : Stage
  survivors : Nat
  deriving DecidableEq, Repr

/-- What the eligibility stages leave: the survivors, a count for each stage that was applied, and
the stage that left none. -/
structure Screening where
  survivors : List Candidate
  counts : List StageCount
  exhaustedAt : Option Stage
  deriving DecidableEq, Repr

namespace Screening

/-- Applies stages in turn and stops at the first that leaves no candidate. -/
def apply (p : Policy) (student : Student) : List Stage → List Candidate → Screening
  | [], cs => ⟨cs, [], none⟩
  | s :: stages, cs =>
    let left := cs.filter fun c => admits p student s c.mentor
    let count : StageCount := ⟨s, left.length⟩
    if left.isEmpty then ⟨[], [count], some s⟩
    else
      let rest := apply p student stages left
      { rest with counts := count :: rest.counts }

def ofPool (p : Policy) (student : Student) (pool : List Mentor) : Screening :=
  apply p student Stage.eligibility (Candidate.ofPool pool)

end Screening

end Mentorship.Matching
