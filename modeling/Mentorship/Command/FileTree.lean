import Mentorship.FileFault
import Mentorship.Text.Split

/-! Trees of files: looking paths up from a working directory, making directories, and writing. -/

namespace Mentorship.Command

open Text

/-- A place in a tree: the names on the way to it from the root. -/
abbrev Place := List String

structure FileTree where
  files : List (Place × List UInt8)
  directories : List Place
  /-- The directory at which relative paths start. -/
  working : Place := []
  deriving DecidableEq, Repr

namespace FileTree

/-! ### Places -/

/-- The names of a path, without empty ones and single dots. -/
def names (path : String) : List String :=
  (splitAt '/' path).filter fun name => name != "" && name != "."

def isAbsolute (path : String) : Bool :=
  path.startsWith "/"

/-- The parts of a path, single dots included; a slash at the end asks for a directory, as a dot
does. -/
def parts (path : String) : List String :=
  let parts := (splitAt '/' path).filter (· != "")
  if path.endsWith "/" then parts ++ ["."] else parts

/-- Paths and names have to be shorter than this many bytes. -/
def pathLimit : Nat := 4096

def nameLimit : Nat := 256

/-- Where the names of a path start. -/
def origin (t : FileTree) (path : String) : Place :=
  if isAbsolute path then [] else t.working

/-- Directories are the root, those on the way to the working directory or to a file, and those
listed. -/
def isDirectory (t : FileTree) (place : Place) : Bool :=
  place.isPrefixOf t.working || t.directories.any place.isPrefixOf ||
    t.files.any fun (file, _) => file != place && place.isPrefixOf file

def file? (t : FileTree) (place : Place) : Option (List UInt8) :=
  t.files.lookup place

/-- Goes from a directory to one of its members; all but the last step of a walk lead to
directories. -/
def step (t : FileTree) (place : Place) (part : String) : Except FileFault Place :=
  if !t.isDirectory place then
    .error (if (t.file? place).isSome then .notADirectory else .notFound)
  else if part == "." then .ok place
  else if part == ".." then .ok place.dropLast
  else if nameLimit ≤ part.utf8ByteSize then .error .nameTooLong
  else .ok (place ++ [part])

def walk (t : FileTree) (place : Place) (parts : List String) : Except FileFault Place :=
  parts.foldlM t.step place

/-- The place that a path denotes, whether there is anything at it or not. -/
def locate (t : FileTree) (path : String) : Except FileFault Place :=
  if path.isEmpty then .error .notFound
  else if pathLimit ≤ path.utf8ByteSize then .error .nameTooLong
  else t.walk (t.origin path) (parts path)

/-! ### Reading -/

def read (t : FileTree) (path : String) : Except FileFault (List UInt8) := do
  let place ← t.locate path
  if t.isDirectory place then .error .isADirectory
  else match t.file? place with
    | some bytes => .ok bytes
    | none => .error .notFound

/-! ### Directories -/

def addDirectory (t : FileTree) (place : Place) : FileTree :=
  { t with directories := t.directories ++ [place] }

/-- Makes the directory at the end of a walk, where nothing is yet. -/
def make (t : FileTree) (start : Place) (parts : List String) : Except FileFault FileTree := do
  let above ← t.walk start parts.dropLast
  let place ← t.walk above parts.getLast?.toList
  if t.isDirectory place || (t.file? place).isSome then .error .alreadyExists
  else .ok (t.addDirectory place)

/-- Makes a directory unless it is there. -/
def makeMissing (t : FileTree) (start : Place) (parts : List String) :
    Option FileFault × FileTree :=
  match t.make start parts with
  | .ok t => (none, t)
  | .error fault =>
    match t.walk start parts with
    | .ok place => (if t.isDirectory place then none else some fault, t)
    | .error _ => (some fault, t)

/-- Makes a directory, and before it those above it, should they be missing; `above` names them, the
nearest first. -/
def makeFrom (t : FileTree) (start : Place) (parts : List String) :
    List String → Option FileFault × FileTree
  | [] => t.makeMissing start parts
  | name :: above =>
    match t.make start parts with
    | .error .notFound =>
      match t.makeFrom start (name :: above).reverse above with
      | (none, t) => t.makeMissing start parts
      | failed => failed
    | _ => t.makeMissing start parts

/-- Makes the directory of a path; an empty path is the working directory. Names on the way that
lead back up are made as well. -/
def makeDirectories (t : FileTree) (path : String) : Option FileFault × FileTree :=
  if path.isEmpty then (none, t)
  else if pathLimit ≤ path.utf8ByteSize then (some .nameTooLong, t)
  else t.makeFrom (t.origin path) ((splitAt '/' path).filter (· != ""))
    ((names path).reverse.drop 1)

/-! ### Writing -/

/-- The path of a name in the directory of a path. -/
def join (directory name : String) : String :=
  if directory.isEmpty || directory.endsWith "/" then directory ++ name
  else directory ++ "/" ++ name

def setFile (t : FileTree) (place : Place) (bytes : List UInt8) : FileTree :=
  { t with files := t.files.filter (·.1 != place) ++ [(place, bytes)] }

/-- Sets the content of a file. -/
def write (t : FileTree) (path text : String) : Except FileFault FileTree := do
  let place ← t.locate path
  if t.isDirectory place then .error .isADirectory
  else .ok (t.setFile place text.toUTF8.toList)

end FileTree

end Mentorship.Command
