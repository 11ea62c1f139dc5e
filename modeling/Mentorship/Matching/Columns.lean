import Mentorship.Matching.Profile
import Mentorship.Matching.Error
import Mentorship.Policy.Basic
import Mentorship.Sheet.Basic
import Mentorship.Text.Label

/-! The columns of a sheet: which header holds which field, found by the names that the policy
declares and by well-known ones. -/

namespace Mentorship.Matching

open Text

inductive Field where
  | trait (s : Stage)
  | studentId | mentorId | remaining | initial
  deriving DecidableEq, Repr

namespace Field

def capacityNames : List String :=
  ["remaining_capacity", "capacity", "ظرفیت باقی مانده", "ظرفیت"]

/-- The headers by which a field is known everywhere, the preferred one first. -/
def wellKnown : Field → List String
  | trait .type => ["major_code", "type", "کدرشته", "کد رشته"]
  | trait .group => ["exam_group", "group", "گروه آزمایشی"]
  | trait .gender => ["gender", "sex", "جنسیت"]
  | trait .graduationStatus =>
    ["graduation_status", "student_status", "دانش آموز فارغ", "وضعیت تحصیلی"]
  | trait .center => ["center", "center_code", "مرکز گلستان صدرا", "مرکز"]
  | trait .finance => ["finance", "finance_code", "مالی حکمت بنیاد", "مالی"]
  | trait .school => ["school_code", "school", "کد مدرسه"]
  | trait .capacityGate => capacityNames
  | remaining => capacityNames
  | studentId => ["student_id", "national_id", "کد ملی", "کدملی"]
  | mentorId => ["mentor_id", "employee_code", "کد کارمندی پشتیبان", "پشتیبان"]
  | initial => ["initial_capacity", "total_capacity", "ظرفیت کل"]

/-- The column that a policy declares for a field. -/
def declared? (p : Policy) : Field → Option String
  | trait s => some (p.stageColumn s)
  | remaining => some p.capacityColumn
  | _ => none

def displayName (p : Policy) (f : Field) : String :=
  (f.declared? p).getD (f.wellKnown.headD "")

/-- The headers accepted for a field: the declared one, its aliases and the well-known ones, each
label once. -/
def acceptedNames (p : Policy) (f : Field) : List String :=
  let declared := match f.declared? p with
    | some column => column :: p.aliasesFor column
    | none => []
  (declared ++ f.wellKnown).eraseDupsBy fun a b => label a == label b

/-- The fields that a sheet has to have. -/
def required : SheetKind → List Field
  | .students => Stage.eligibility.map trait ++ [studentId]
  | .pool => Stage.eligibility.map trait ++ [mentorId, remaining]

end Field

/-- The positions of the fields found in a sheet. -/
structure Columns where
  positions : List (Field × Nat)
  deriving DecidableEq, Repr

namespace Columns

/-- The first header with the label of one of the names, an earlier name before a later one. -/
def locate (headers names : List String) : Option Nat :=
  names.findSome? fun name => headers.findIdx? fun header => label header == label name

def locateField (headers : List String) (p : Policy) (f : Field) : Option Nat :=
  locate headers (f.acceptedNames p)

def locateRequired (headers : List String) (kind : SheetKind) (p : Policy) (f : Field) :
    Except Error (Field × Nat) :=
  match locateField headers p f with
  | some position => .ok (f, position)
  | none => .error (.missingColumn kind (f.displayName p) (f.acceptedNames p))

/-- Finds the required fields of a sheet, and for a pool the initial capacity if it is there. -/
def resolve (headers : List String) (kind : SheetKind) (p : Policy) : Except Error Columns := do
  let found ← (Field.required kind).mapM (locateRequired headers kind p)
  let extra := match kind, locateField headers p .initial with
    | .pool, some position => [(.initial, position)]
    | _, _ => []
  return ⟨found ++ extra⟩

def position? (c : Columns) (f : Field) : Option Nat :=
  c.positions.lookup f

/-- The cell of a field in a row, blank if the field was not found. -/
def cell (c : Columns) (row : List String) (f : Field) : String :=
  ((c.position? f).map (Sheet.cellAt row)).getD ""

def profile (c : Columns) (row : List String) : Profile :=
  .ofStages fun s => .ofCell (c.cell row (.trait s))

end Columns

end Mentorship.Matching
