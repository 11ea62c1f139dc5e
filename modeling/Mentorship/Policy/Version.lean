import Mentorship.Number.Numeral
import Mentorship.Text.Blank
import Mentorship.Text.Split

/-! Versions of policy documents: three numbers and an optional pre-release name. -/

namespace Mentorship.Policy

open Text

structure Version where
  major : Nat
  minor : Nat
  patch : Nat
  preRelease : Option String := none
  deriving DecidableEq, Repr

namespace Version

/-- A number of 64 bits in digits without a leading zero. -/
def component? (ds : List Char) : Option Nat :=
  if ds.isEmpty || !ds.all isDigit || (1 < ds.length && ds.head? == some '0') then none
  else some (natOfDigits ds) |>.filter (· < Number.wordLimit)

/-- The part before the first dash, and what follows the dash if there is one. -/
def splitPreRelease (cs : List Char) : List Char × Option (List Char) :=
  (cs.takeWhile (· != '-'), (cs.dropWhile (· != '-')).tail?)

/-- Reads `MAJOR.MINOR.PATCH`, a dash and a pre-release name if there is one, and build data after a
plus sign, which is dropped. -/
def ofText? (s : String) : Option Version := do
  let (core, pre) := splitPreRelease ((trim s).toList.takeWhile (· != '+'))
  if pre == some [] then none
  match ← (pieces '.' core).mapM component? with
  | [major, minor, patch] => some ⟨major, minor, patch, pre.map String.ofList⟩
  | _ => none

def render (v : Version) : String :=
  s!"{v.major}.{v.minor}.{v.patch}" ++ (v.preRelease.map ("-" ++ ·)).getD ""

end Version

end Mentorship.Policy
