import Mentorship.Registration.Id
import Mentorship.Registration.Roster

/-! Assignment of registration ids: an id of the prior year is kept, a student met twice keeps the
first id, and all others take the next free sequence of their gender. -/

namespace Mentorship.Registration

open Policy (Gender GenderCodes)

/-! ### Results -/

/-- Where a registration id comes from. -/
inductive Origin where
  | priorYear | minted | memoized
  deriving DecidableEq, Repr

def Origin.label : Origin → String
  | priorYear => "prior_year"
  | minted => "minted"
  | memoized => "memoized"

structure Assignment where
  row : Nat
  nationalId : NationalId
  gender : Gender
  id : String
  origin : Origin
  deriving DecidableEq, Repr

/-- The next free sequence of a gender and how its rows were served. -/
structure Tally where
  next : Nat
  reused : Nat := 0
  minted : Nat := 0
  memoized : Nat := 0
  deriving DecidableEq, Repr

structure Tallies where
  female : Tally
  male : Tally
  deriving DecidableEq, Repr

namespace Tallies

def get (t : Tallies) : Gender → Tally
  | .female => t.female
  | .male => t.male

def modify (t : Tallies) (g : Gender) (f : Tally → Tally) : Tallies :=
  match g with
  | .female => { t with female := f t.female }
  | .male => { t with male := f t.male }

end Tallies

structure GenderSummary where
  gender : Gender
  code : Nat
  tally : Tally
  deriving DecidableEq, Repr

structure Summary where
  academicYear : Nat
  yearOffset : Nat
  rows : Nat
  genders : List GenderSummary
  deriving DecidableEq, Repr

def Summary.gender? (s : Summary) (g : Gender) : Option GenderSummary :=
  s.genders.find? (·.gender == g)

structure Issue where
  assignments : List Assignment
  summary : Summary
  deriving DecidableEq, Repr

/-! ### Uniqueness -/

/-- The assignments, in order, whose id is held by someone met before. -/
def clashesAfter (holders : Dictionary String NationalId) : List Assignment → List Clash
  | [] => []
  | a :: rest =>
    match holders.find? a.id with
    | none => clashesAfter (holders.insert a.id a.nationalId) rest
    | some holder =>
      if holder == a.nationalId then clashesAfter holders rest
      else ⟨a.row, a.id⟩ :: clashesAfter holders rest

def clashes (as : List Assignment) : List Clash :=
  clashesAfter ∅ as

/-- How many clashes an error shows. -/
def shownClashes : Nat := 3

def ensureUnique (as : List Assignment) : Except Error Unit :=
  if (clashes as).isEmpty then .ok () else .error (.sharedIds ((clashes as).take shownClashes))

/-! ### Assigning -/

/-- An academic year with its two-digit form, and the codes of the genders. -/
structure Assigner where
  academicYear : Nat
  year : Nat
  codes : GenderCodes
  deriving DecidableEq, Repr

/-- The counters of a run and the ids that it has given so far. -/
structure Progress where
  tallies : Tallies
  given : Dictionary NationalId String
  deriving DecidableEq, Repr

namespace Assigner

def ofYear (academicYear : Nat) (codes : GenderCodes) : Except Error Assigner :=
  match Year.offset? academicYear with
  | some year => .ok ⟨academicYear, year, codes⟩
  | none => .error (.invalidYear academicYear)

/-- One more than the greatest sequence issued this year for a gender. -/
def start (a : Assigner) (current : List String) (g : Gender) : Nat :=
  (current.filterMap Id.ofText?).foldl
    (fun next x => if x.belongsTo a.year (a.codes.code g) then max next (x.sequence + 1) else next)
    1

def startTallies (a : Assigner) (current : List String) : Tallies :=
  ⟨{ next := a.start current .female }, { next := a.start current .male }⟩

/-- The id with the next free sequence of a gender. -/
def mint (a : Assigner) (g : Gender) (sequence : Nat) : Except Error String :=
  if sequence ≤ Id.greatestSequence then
    .ok (Id.render ⟨a.year, a.codes.code g, sequence⟩)
  else .error (.sequenceOverflow g)

/-- The id for a student, where it comes from, and how the student's gender is counted then. -/
def choose (a : Assigner) (prior : Prior) (s : Progress) (e : Entry) :
    Except Error (String × Origin × (Tally → Tally)) :=
  match s.given.find? e.nationalId with
  | some id => .ok (id, .memoized, fun t => { t with memoized := t.memoized + 1 })
  | none =>
    match prior.find? e.nationalId with
    | some id => .ok (id, .priorYear, fun t => { t with reused := t.reused + 1 })
    | none => do
      let id ← a.mint e.gender (s.tallies.get e.gender).next
      return (id, .minted, fun t => { t with next := t.next + 1, minted := t.minted + 1 })

def assignOne (a : Assigner) (prior : Prior) (s : Progress) (e : Entry) :
    Except Error (Assignment × Progress) := do
  let (id, origin, count) ← a.choose prior s e
  let s := ⟨s.tallies.modify e.gender count, s.given.insertIfNew e.nationalId id⟩
  return (⟨e.row, e.nationalId, e.gender, id, origin⟩, s)

/-- Assigns in the order given; each entry carries its place in the roster along. -/
def assignAll (a : Assigner) (prior : Prior) (s : Progress) :
    List (Entry × Nat) → Except Error (List (Assignment × Nat) × Progress)
  | [] => .ok ([], s)
  | (e, place) :: rest => do
    let (x, s) ← a.assignOne prior s e
    let (xs, s) ← a.assignAll prior s rest
    return ((x, place) :: xs, s)

/-- The roster in natural order of the national ids. -/
def visitOrder (roster : List Entry) : List (Entry × Nat) :=
  roster.zipIdx.mergeSort fun x y =>
    (compare x.1.nationalId.sortKey y.1.nationalId.sortKey).isLE

def summary (a : Assigner) (rows : Nat) (t : Tallies) : Summary where
  academicYear := a.academicYear
  yearOffset := a.year
  rows := rows
  genders := Gender.all.map fun g => ⟨g, a.codes.code g, t.get g⟩

/-- Assigns an id to every row. Students are served in natural order of their national ids, so the
order of the rows does not decide who gets which sequence; the result is in the order of the
roster. -/
def assign (a : Assigner) (roster : List Entry) (prior : Prior) (current : List String) :
    Except Error Issue := do
  let (served, s) ← a.assignAll prior ⟨a.startTallies current, ∅⟩ (visitOrder roster)
  let assignments := (served.mergeSort fun x y => x.2 ≤ y.2).map (·.1)
  ensureUnique assignments
  return ⟨assignments, a.summary assignments.length s.tallies⟩

end Assigner

end Mentorship.Registration
