/-! Genders and the three-digit codes that registration ids carry for them. -/

namespace Mentorship.Policy

inductive Gender where
  | female | male
  deriving DecidableEq, Repr

namespace Gender

def all : List Gender := [female, male]

/-- The digit by which rosters record a gender. -/
def digit : Gender → Nat
  | female => 0
  | male => 1

def ofDigit? (n : Int) : Option Gender :=
  all.find? fun g => (g.digit : Int) == n

def label : Gender → String
  | female => "female"
  | male => "male"

theorem ofDigit?_digit (g : Gender) : ofDigit? g.digit = some g := by
  cases g <;> rfl

end Gender

structure GenderCodes where
  female : Nat
  male : Nat
  deriving DecidableEq, Repr

namespace GenderCodes

/-- The codes of a policy that declares none. -/
def standard : GenderCodes := ⟨373, 357⟩

def code (c : GenderCodes) : Gender → Nat
  | .female => c.female
  | .male => c.male

def gender? (c : GenderCodes) (code : Nat) : Option Gender :=
  Gender.all.find? fun g => c.code g == code

end GenderCodes

end Mentorship.Policy
