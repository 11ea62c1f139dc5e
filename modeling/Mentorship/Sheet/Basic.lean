import Mentorship.Text.Blank

/-! Sheets: a row of headers and rows of cells, which may be shorter or longer than it. -/

namespace Mentorship

structure Sheet where
  headers : List String
  rows : List (List String)
  deriving DecidableEq, Repr

namespace Sheet

def size (s : Sheet) : Nat :=
  s.rows.length

def isEmpty (s : Sheet) : Bool :=
  s.rows.isEmpty

/-- The cell of a row at a column, blank where there is none. -/
def cellAt (row : List String) (column : Nat) : String :=
  row.getD column ""

def cell (s : Sheet) (row column : Nat) : String :=
  cellAt (s.rows.getD row []) column

end Sheet

end Mentorship
