import Mentorship.Matching.Mentor

/-! Candidates: mentors together with their places in the pool. -/

namespace Mentorship.Matching

structure Candidate where
  index : Nat
  mentor : Mentor
  deriving DecidableEq, Repr

namespace Candidate

/-- The whole pool, in its order. -/
def ofPool (pool : List Mentor) : List Candidate :=
  pool.zipIdx.map fun (m, i) => ⟨i, m⟩

/-- The mentors at some places of the pool, in the order of the places. -/
def pick (pool : List Mentor) (places : List Nat) : List Candidate :=
  places.filterMap fun i => pool[i]?.map fun m => ⟨i, m⟩

/-- The candidates with a free seat. -/
def withSeats (cs : List Candidate) : List Candidate :=
  cs.filter (·.mentor.hasSeat)

end Candidate

end Mentorship.Matching
