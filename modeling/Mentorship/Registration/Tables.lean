import Mentorship.Json.Value
import Mentorship.Registration.Assignment
import Mentorship.Sheet.File

/-! The files that an assignment of registration ids is written to. -/

namespace Mentorship.Registration.Tables

def columns : List String :=
  ["row", "national_id", "gender", "registration_id", "source"]

def row (a : Assignment) : List String :=
  [toString a.row, a.nationalId.text, toString a.gender.digit, a.id, a.origin.label]

def assignments (as : List Assignment) : String :=
  Sheet.textOf columns (as.map row)

def genderSummary (s : GenderSummary) : Json.Value :=
  .object [("gender", .string s.gender.label), ("gender_code", .int s.code),
    ("reused", .int s.tally.reused), ("minted", .int s.tally.minted),
    ("memoized", .int s.tally.memoized), ("next_sequence", .int s.tally.next)]

def summary (s : Summary) : Json.Value :=
  .object [("academic_year", .int s.academicYear), ("year_offset", .int s.yearOffset),
    ("rows", .int s.rows), ("genders", .list (s.genders.map genderSummary))]

end Mentorship.Registration.Tables
