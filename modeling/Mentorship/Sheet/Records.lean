/-! Comma-separated records over any alphabet that has a comma, a quote and two line ends: reading
and writing. -/

namespace Mentorship.Sheet

/-- The symbols that structure a text of records. -/
structure Marks (α : Type) where
  comma : α
  quote : α
  carriageReturn : α
  lineFeed : α

namespace Marks

variable {α : Type} [DecidableEq α]

def isLineEnd (m : Marks α) (c : α) : Bool :=
  c == m.carriageReturn || c == m.lineFeed

/-! ### Reading -/

/-- Where reading stands: between records, before a field, inside a plain or a quoted field, or
behind a quote inside a quoted field. -/
inductive Place where
  | recordStart | fieldStart | plain | quoted | afterQuote
  deriving DecidableEq, Repr

/-- The record under way: its finished fields and the field under way, both reversed. -/
structure Pending (α : Type) where
  fields : List (List α) := []
  field : List α := []

namespace Pending

def push (p : Pending α) (c : α) : Pending α :=
  { p with field := c :: p.field }

def endField (p : Pending α) : Pending α :=
  ⟨p.field.reverse :: p.fields, []⟩

def record (p : Pending α) : List (List α) :=
  p.endField.fields.reverse

end Pending

/-- The records of a text from a place inside it on. A field that starts with a quote runs to the
next single quote, and what then follows up to a comma or a line end still belongs to it. -/
def readFrom (m : Marks α) : Place → Pending α → List α → List (List (List α))
  | .recordStart, _, [] => []
  | _, p, [] => [p.record]
  | .quoted, p, c :: cs =>
    if c == m.quote then readFrom m .afterQuote p cs else readFrom m .quoted (p.push c) cs
  | place, p, c :: cs =>
    if c == m.quote && place == .afterQuote then readFrom m .quoted (p.push c) cs
    else if m.isLineEnd c then
      if place == .recordStart then readFrom m .recordStart {} cs
      else p.record :: readFrom m .recordStart {} cs
    else if c == m.comma then readFrom m .fieldStart p.endField cs
    else if c == m.quote && (place == .recordStart || place == .fieldStart) then
      readFrom m .quoted p cs
    else readFrom m .plain (p.push c) cs

/-- The records of a text; blank lines hold none. -/
def read (m : Marks α) (text : List α) : List (List (List α)) :=
  readFrom m .recordStart {} text

/-! ### Writing -/

def needsQuotes (m : Marks α) (field : List α) : Bool :=
  field.any fun c => c == m.comma || c == m.quote || m.isLineEnd c

/-- A field in quotes, each quote inside it written twice. -/
def quoteField (m : Marks α) (field : List α) : List α :=
  m.quote :: (field.flatMap fun c => if c == m.quote then [c, c] else [c]) ++ [m.quote]

def writeField (m : Marks α) (field : List α) : List α :=
  if m.needsQuotes field then m.quoteField field else field

def writeRecord (m : Marks α) (fields : List (List α)) : List α :=
  [m.comma].intercalate (fields.map m.writeField) ++ [m.lineFeed]

def write (m : Marks α) (records : List (List (List α))) : List α :=
  records.flatMap m.writeRecord

end Marks

end Mentorship.Sheet
