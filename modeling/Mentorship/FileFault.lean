/-! Why a file or directory could not be used, with the operating system's wording. -/

namespace Mentorship

inductive FileFault where
  | notFound | alreadyExists | notADirectory | isADirectory | nameTooLong | notUtf8
  deriving DecidableEq, Repr

def FileFault.message : FileFault → String
  | notFound => "No such file or directory (os error 2)"
  | alreadyExists => "File exists (os error 17)"
  | notADirectory => "Not a directory (os error 20)"
  | isADirectory => "Is a directory (os error 21)"
  | nameTooLong => "File name too long (os error 36)"
  | notUtf8 => "stream did not contain valid UTF-8"

end Mentorship
