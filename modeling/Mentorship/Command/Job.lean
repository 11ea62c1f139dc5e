import Mentorship.Command.Failure
import Mentorship.Command.FileTree

/-! Jobs: what a run does step by step with the files around it. -/

namespace Mentorship.Command

/-- A step that may look at the files, change them, and fail. What has been changed before a failure
stays changed. -/
abbrev Job := ExceptT Failure (StateM FileTree)

namespace Job

variable {α : Type}

/-- What comes of a job on some files, and the files after it. -/
def runOn (a : Job α) (t : FileTree) : Except Failure α × FileTree :=
  a.run t

def ofExcept (x : Except Failure α) : Job α :=
  ExceptT.mk fun t => (x, t)

/-- Looks at the files. -/
def look (f : FileTree → α) : Job α :=
  ExceptT.mk fun t => (.ok (f t), t)

/-- Changes the files, which may stop halfway. -/
def change (f : FileTree → Option FileFault × FileTree) : Job Unit :=
  ExceptT.mk fun t =>
    match f t with
    | (none, t) => (.ok (), t)
    | (some fault, t) => (.error (.file fault), t)

def read (path : String) : Job (Except FileFault (List UInt8)) :=
  look (·.read path)

def makeDirectories (path : String) : Job Unit :=
  change (·.makeDirectories path)

/-- Writes a file of a directory. -/
def write (directory name text : String) : Job Unit :=
  change fun t =>
    match t.write (FileTree.join directory name) text with
    | .ok t => (none, t)
    | .error fault => (some fault, t)

end Job

end Mentorship.Command
