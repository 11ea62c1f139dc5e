import Mentorship.NaturalKey
import Mentorship.Text.Label

/-! National ids: ten digits, however they were spelled. -/

namespace Mentorship.Registration

open Text

def NationalId.width : Nat := 10

@[ext] structure NationalId where
  text : String
  length_text : text.toList.length = NationalId.width
  all_isDigit : text.toList.all isDigit = true
  deriving DecidableEq, Repr

namespace NationalId

/-- Ids come in the order of their texts. -/
instance : Ord NationalId := ⟨fun x y => compare x.text y.text⟩

instance : Std.LawfulEqOrd NationalId where
  compare_self {x} := (Std.ReflOrd.compare_self : compare x.text x.text = .eq)
  eq_of_compare h := NationalId.ext (Std.LawfulEqOrd.eq_of_compare h)

theorem isDigit_text (x : NationalId) : ∀ c ∈ x.text.toList, isDigit c = true :=
  List.all_eq_true.mp x.all_isDigit

/-- The digits of a text, folded, without anything else in it. -/
def digitsOf (s : String) : List Char :=
  (foldDigits s).toList.filter isDigit

theorem isDigit_of_mem_digitsOf {s : String} {c : Char} (h : c ∈ digitsOf s) : isDigit c = true :=
  (List.mem_filter.mp h).2

/-- The id with some digits at its end, and zeros before them. -/
def ofDigits (ds : List Char) (hlen : ds.length ≤ width) (h : ∀ c ∈ ds, isDigit c = true) :
    NationalId where
  text := String.ofList (ds.leftpad width '0')
  length_text := by rw [String.toList_ofList, List.length_leftpad, Nat.max_eq_left hlen]
  all_isDigit := by
    rw [String.toList_ofList, List.all_eq_true]
    exact isDigit_of_mem_leftpad h

/-- Reads up to ten digits and fills them up with zeros on the left. -/
def ofText? (s : String) : Option NationalId :=
  let ds := digitsOf s
  if isBlankMark s || ds.isEmpty then none
  else if hlen : ds.length ≤ width then some (ofDigits ds hlen fun _ => isDigit_of_mem_digitsOf)
  else none

def sortKey (x : NationalId) : NaturalKey :=
  .ofText x.text

end NationalId

end Mentorship.Registration
