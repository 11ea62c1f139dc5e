import Mentorship.Matching.Error
import Mentorship.Matching.Mentor

/-! The ledger of seats: the pool as it stands, changed only by taking one seat of one mentor. -/

namespace Mentorship.Matching

/-- A mentor's free seats before and after one was taken. -/
structure SeatChange where
  before : Int
  after : Int
  deriving DecidableEq, Repr

def Mentor.takeSeat (m : Mentor) : Mentor :=
  { m with remaining := m.remaining - 1, allocationsNew := m.allocationsNew + 1 }

namespace Ledger

/-- Takes a seat of the mentor at a place of the pool. -/
def commit (pool : List Mentor) (place : Nat) : Except Error (SeatChange × List Mentor) :=
  match pool[place]? with
  | none => .error (.unknownCandidate place)
  | some m =>
    if m.hasSeat then .ok (⟨m.remaining, m.remaining - 1⟩, pool.set place m.takeSeat)
    else .error (.noSeatLeft m.id m.remaining)

end Ledger

end Mentorship.Matching
