import Mentorship.Sheet.Basic
import Mentorship.Sheet.Records
import Mentorship.Text.ByteOrderMark

/-! Sheets as files: comma-separated records of UTF-8 text. -/

namespace Mentorship.Sheet

/-- A header or cell that is not text. -/
inductive Fault where
  | notUtf8
  deriving DecidableEq, Repr

def Fault.message : Fault → String
  | notUtf8 => "CSV parse error: invalid UTF-8"

/-! ### Reading -/

def byteMarks : Marks UInt8 where
  comma := 44
  quote := 34
  carriageReturn := 13
  lineFeed := 10

/-- A field's text without blanks around it. -/
def fieldText (field : List UInt8) : Except Fault String :=
  match String.fromUTF8? field.toByteArray with
  | some s => .ok (Text.trim s)
  | none => .error .notUtf8

/-- The first record names the columns. -/
def ofRecords : List (List String) → Sheet
  | [] => ⟨[], []⟩
  | headers :: rows => ⟨headers, rows⟩

def ofBytes (bytes : List UInt8) : Except Fault Sheet :=
  return ofRecords (← (byteMarks.read (Text.dropByteOrderMark bytes)).mapM (·.mapM fieldText))

/-! ### Writing -/

def charMarks : Marks Char where
  comma := ','
  quote := '"'
  carriageReturn := '\r'
  lineFeed := '\n'

/-- The text of a table with named columns; without rows it is empty, names included. -/
def textOf (columns : List String) (rows : List (List String)) : String :=
  if rows.isEmpty then ""
  else String.ofList (charMarks.write ((columns :: rows).map (·.map String.toList)))

end Mentorship.Sheet
