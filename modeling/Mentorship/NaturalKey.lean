import Mentorship.Text.Blank
import Mentorship.Text.Digits
import Mentorship.Text.Lowercase

/-! Natural order of identifiers: runs of digits compare as numbers, runs of other characters
without regard to case, and identifiers alike in both by their folded text. -/

namespace Mentorship

open Text

/-- A run of an identifier: a number without its leading zeros, or lower-cased text. -/
inductive NaturalToken where
  | number (digits : List Char)
  | word (lowered : List Char)
  deriving DecidableEq, Repr

namespace NaturalToken

/-- Reads a run whose characters are all digits or all not. -/
def ofRun (run : List Char) : NaturalToken :=
  if run.head?.any isDigit then .number (run.dropWhile (· == '0')) else .word (lowercaseChars run)

/-- Numbers come before words; of two numbers the one with fewer digits is the smaller. -/
def order : NaturalToken → NaturalToken → Ordering
  | .number d, .number e => (compare d.length e.length).then (compare d e)
  | .number _, .word _ => .lt
  | .word _, .number _ => .gt
  | .word u, .word v => compare u v

instance : Ord NaturalToken := ⟨order⟩

end NaturalToken

structure NaturalKey where
  tokens : List NaturalToken
  folded : String
  deriving DecidableEq, Repr

namespace NaturalKey

/-- The maximal runs of digits and of other characters. -/
def runs (cs : List Char) : List (List Char) :=
  cs.splitBy fun c d => isDigit c == isDigit d

/-- The text that a key stands for. -/
def fold (identifier : String) : String :=
  foldDigits (trim identifier)

def ofText (identifier : String) : NaturalKey where
  tokens := (runs (fold identifier).toList).map .ofRun
  folded := fold identifier

def order (x y : NaturalKey) : Ordering :=
  (compare x.tokens y.tokens).then (compare x.folded y.folded)

instance : Ord NaturalKey := ⟨order⟩

end NaturalKey

end Mentorship
