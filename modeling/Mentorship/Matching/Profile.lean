import Mentorship.Matching.Stage
import Mentorship.Matching.Trait

/-! Profiles: one trait per eligibility stage. -/

namespace Mentorship.Matching

structure Profile where
  type : Trait := .missing
  group : Trait := .missing
  gender : Trait := .missing
  graduationStatus : Trait := .missing
  center : Trait := .missing
  finance : Trait := .missing
  school : Trait := .missing
  deriving DecidableEq, Repr, Inhabited

namespace Profile

def ofStages (f : Stage → Trait) : Profile :=
  ⟨f .type, f .group, f .gender, f .graduationStatus, f .center, f .finance, f .school⟩

/-- The trait compared at a stage; the capacity gate compares none. -/
def get (p : Profile) : Stage → Trait
  | .type => p.type
  | .group => p.group
  | .gender => p.gender
  | .graduationStatus => p.graduationStatus
  | .center => p.center
  | .finance => p.finance
  | .school => p.school
  | .capacityGate => .missing

end Profile

end Mentorship.Matching
