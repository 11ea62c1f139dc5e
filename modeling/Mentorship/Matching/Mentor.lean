import Mentorship.Matching.Profile
import Mentorship.NaturalKey
import Mentorship.Number.Binary64

/-! Students and the mentors whose seats they take. -/

namespace Mentorship.Matching

structure Student where
  id : String
  profile : Profile
  deriving DecidableEq, Repr

structure Mentor where
  id : String
  profile : Profile
  remaining : Int
  initial : Int
  allocationsNew : Nat
  deriving DecidableEq, Repr

namespace Mentor

/-- The key that orders mentors by identifier. -/
def sortKey (m : Mentor) : NaturalKey :=
  .ofText m.id

def hasSeat (m : Mentor) : Bool :=
  0 < m.remaining

/-- The seats in use. They are counted in signed words of 64 bits, where the difference wraps. -/
def used (m : Mentor) : Int :=
  (Int64.ofInt m.initial - Int64.ofInt m.remaining).toInt

/-- The seats that occupancy is measured against, never fewer than one. -/
def size (m : Mentor) : Int :=
  max m.initial 1

/-- Used seats by size, in floating point. -/
def occupancy (m : Mentor) : Number.Binary64 :=
  .ratio (.ofInt m.used) (.ofInt m.size)

/-- Compares used seats by size as fractions, without rounding. -/
def compareOccupancy (a b : Mentor) : Ordering :=
  compare (a.used * b.size) (b.used * a.size)

end Mentor

end Mentorship.Matching
