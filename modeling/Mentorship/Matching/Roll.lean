import Mentorship.Matching.Columns
import Mentorship.Matching.Mentor

/-! Students and mentors read from the rows of their sheets. -/

namespace Mentorship.Matching

open Text

namespace Student

/-- Reads row number `n`. -/
def ofRow (c : Columns) (n : Nat) (row : List String) : Except Error Student :=
  let id := trim (c.cell row .studentId)
  if id.isEmpty then .error (.blankIdentifier .students n) else .ok ⟨id, c.profile row⟩

def ofRowsFrom (c : Columns) (n : Nat) : List (List String) → Except Error (List Student)
  | [] => .ok []
  | row :: rows => return (← ofRow c n row) :: (← ofRowsFrom c (n + 1) rows)

/-- The students of a sheet, in its order. -/
def ofSheet (sheet : Sheet) (p : Policy) : Except Error (List Student) := do
  ofRowsFrom (← Columns.resolve sheet.headers .students p) 1 sheet.rows

end Student

namespace Mentor

/-- A mentor whose seats are all free. -/
def fresh (id : String) (profile : Profile) (seats : Int) : Mentor :=
  ⟨id, profile, seats, seats, 0⟩

def seats (id cell : String) : Except Error Int :=
  (Seats.ofCell cell).mapError (.invalidCapacity id)

/-- Reads row number `n`; an identifier may not repeat one of the rows before. -/
def ofRow (c : Columns) (seen : List String) (n : Nat) (row : List String) :
    Except Error Mentor := do
  let id := trim (c.cell row .mentorId)
  if id.isEmpty then .error (.blankIdentifier .pool n)
  else if seen.contains id then .error (.duplicateMentor id)
  else
    let remaining ← seats id (c.cell row .remaining)
    let cell := c.cell row .initial
    let initial ← if isBlankMark cell then .ok remaining else seats id cell
    return ⟨id, c.profile row, remaining, initial, 0⟩

def ofRowsFrom (c : Columns) (seen : List String) (n : Nat) :
    List (List String) → Except Error (List Mentor)
  | [] => .ok []
  | row :: rows => do
    let mentor ← ofRow c seen n row
    return mentor :: (← ofRowsFrom c (mentor.id :: seen) (n + 1) rows)

/-- The mentors of a sheet, in its order. -/
def ofSheet (sheet : Sheet) (p : Policy) : Except Error (List Mentor) := do
  ofRowsFrom (← Columns.resolve sheet.headers .pool p) [] 1 sheet.rows

end Mentor

end Mentorship.Matching
