/-! The byte order mark, which may stand in front of a text and is no part of it. -/

namespace Mentorship.Text

def byteOrderMark : Char := '\uFEFF'

/-- The bytes of a text without one byte order mark in front. -/
def dropByteOrderMark : List UInt8 → List UInt8
  | 0xEF :: 0xBB :: 0xBF :: bytes => bytes
  | bytes => bytes

/-- The text without all byte order marks in front. -/
def dropByteOrderMarks (s : String) : String :=
  String.ofList (s.toList.dropWhile (· == byteOrderMark))

end Mentorship.Text
