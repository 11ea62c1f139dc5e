import Mentorship.Digest.Sha256
import Mentorship.Matching.Candidate
import Mentorship.Policy.Basic

/-! Ranking of candidates by the rules of a policy: a later rule counts only where all earlier ones
tie. -/

namespace Mentorship.Matching

open Policy

namespace Ranking

/-- The text whose hash orders a mentor for a student, if the strategy uses hashes. -/
def token? (f : Fairness) (student : Student) (m : Mentor) : Option String :=
  match f with
  | .deterministic => none
  | .mentorDigest => some m.id
  | .studentDigest => some (student.id ++ "|" ++ m.id)

def digest? (f : Fairness) (student : Student) (m : Mentor) : Option String :=
  (token? f student m).map fun token => Digest.Sha256.hex token.toUTF8.toList

def compareDigest (f : Fairness) (student : Student) (a b : Mentor) : Ordering :=
  match digest? f student a, digest? f student b with
  | some x, some y => compare x y
  | _, _ => .eq

def compareBy (f : Fairness) (student : Student) : RuleKind → Mentor → Mentor → Ordering
  | .minOccupancyRatio, a, b => a.compareOccupancy b
  | .maxRemainingCapacity, a, b => compare b.remaining a.remaining
  | .minAllocationsNew, a, b => compare a.allocationsNew b.allocationsNew
  | .minMentorId, a, b => (compareDigest f student a b).then (compare a.sortKey b.sortKey)

/-- The order of the policy's rules, the first that does not tie. -/
def order (p : Policy) (student : Student) (a b : Mentor) : Ordering :=
  p.rankingRules.foldr (fun r rest => (compareBy p.fairness student r.kind a b).then rest) .eq

/-- The candidates from best to worst; those that tie keep their order. -/
def rank (p : Policy) (student : Student) (cs : List Candidate) : List Candidate :=
  cs.mergeSort fun a b => (order p student a.mentor b.mentor).isLE

/-- Ranking loses no candidate. -/
theorem rank_perm (p : Policy) (student : Student) (cs : List Candidate) :
    (rank p student cs).Perm cs :=
  List.mergeSort_perm _ _

/-- Where there are candidates, one is ranked first. -/
theorem rank_ne_nil (p : Policy) (student : Student) {cs : List Candidate}
    (h : ¬cs.isEmpty = true) : rank p student cs ≠ [] := by
  intro hnil
  have hperm := rank_perm p student cs
  rw [hnil] at hperm
  exact h (List.isEmpty_iff.mpr hperm.nil_eq.symm)

def winner? (p : Policy) (student : Student) (cs : List Candidate) : Option Candidate :=
  (rank p student cs).head?

def capacityNote : String := "; capacity tie-break active"

/-- Occupancy in reasons has three places. -/
def reasonPlaces : Nat := 3

/-- Why a mentor was chosen among `count` candidates. -/
def reason (p : Policy) (m : Mentor) (count : Nat) : String :=
  s!"selected {m.id} from {count} candidate(s) by {p.rankingChain}: " ++
    s!"occupancy {m.occupancy.fixed reasonPlaces}, remaining {m.remaining}, " ++
    s!"allocations {m.allocationsNew}" ++
    if p.hasRule .maxRemainingCapacity then capacityNote else ""

end Ranking

end Mentorship.Matching
