/-! Splitting a text at every occurrence of one character. -/

namespace Mentorship.Text

/-- The pieces between separators: always at least one, and possibly empty ones. -/
def pieces (separator : Char) : List Char → List (List Char)
  | [] => [[]]
  | c :: cs =>
    if c == separator then [] :: pieces separator cs
    else (pieces separator cs).modifyHead (c :: ·)

def splitAt (separator : Char) (s : String) : List String :=
  (pieces separator s.toList).map String.ofList

end Mentorship.Text
