import Mentorship.Text.Blank
import Mentorship.Text.Lowercase

/-! Spellings that count as the same: header labels up to blanks and case, and the marks that stand
for no value. -/

namespace Mentorship.Text

/-- Invisible characters that act as a blank inside a label. -/
def isInvisible (c : Char) : Bool :=
  c == '\uFEFF' || c == '\u200B' || c == '\u200C'

/-- The form under which two labels are the same: words in lower case, single spaces between. -/
def label (s : String) : String :=
  lowercase (collapse (String.ofList (s.toList.map fun c => if isInvisible c then ' ' else c)))

def blankMarks : List String :=
  ["", "nan", "none", "null", "-", "\u2013", "\u2014", "\u2212"]

/-- Whether the text stands for no value: nothing at all, a dash, or one of three words. -/
def isBlankMark (s : String) : Bool :=
  blankMarks.contains (lowerAscii (trim s))

end Mentorship.Text
