import Mentorship.Text.LetterTable

/-! Letters and numbers of all scripts. -/

namespace Mentorship.Text

def isAlphabetic (c : Char) : Bool :=
  alphabeticTable.has c

def isNumeric (c : Char) : Bool :=
  numericTable.has c

def isAlphanumeric (c : Char) : Bool :=
  isAlphabetic c || isNumeric c

end Mentorship.Text
