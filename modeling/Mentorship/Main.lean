import Mentorship.Command.Program
import Std.Time.Zoned

/-! The executable: gathers what a run may look at, lets the program decide, and carries out what it
decided. -/

namespace Mentorship

open Command

/-! ### What is there -/

/-- Variables that settings, and texts that refer to variables, may name. -/
def knownVariables : List String :=
  ["APP_ENV", "APP_POLICY_PATH", "APP_POLICY_MODE", "APP_OUTPUT_DIR", "APP_ACADEMIC_YEAR",
    "APP_LOG_LEVEL", "RUST_LOG", "HOME", "PATH", "PWD", "USER"]

def readVariables : IO Settings.Environment := do
  let mut env : Settings.Environment := ∅
  for name in knownVariables do
    if let some value ← IO.getEnv name then
      env := env.insert name value
  return env

def pathOf (place : Place) : String :=
  "/" ++ "/".intercalate place

/-- Adds a place to a tree if there is a file or a directory. -/
def look (t : FileTree) (place : Place) : IO FileTree := do
  if t.isDirectory place || (t.file? place).isSome then return t
  try
    return t.setFile place (← IO.FS.readBinFile (pathOf place)).toList
  catch _ =>
    try
      discard <| IO.FS.realPath (pathOf (place ++ ["."]))
      return t.addDirectory place
    catch _ => return t

/-- Adds every place on the way along a path. -/
def lookAlong (t : FileTree) (path : String) : IO FileTree := do
  let mut t := t
  let mut place := t.origin path
  for name in FileTree.names path do
    place := if name == ".." then place.dropLast else place ++ [name]
    t ← look t place
  return t

/-! ### Clock -/

def twoDigits (n : Nat) : String :=
  String.ofList (Text.paddedDigits 2 n)

/-- A time in years down to nanoseconds, in UTC. -/
def timeText (now : Std.Time.DateTime) : String :=
  let date := s!"{now.year.toInt}-{twoDigits now.month.toNat}-{twoDigits now.day.toNat}"
  let time := s!"{twoDigits now.hour.toNat}:{twoDigits now.minute.toNat}:" ++
    twoDigits now.second.toNat
  let nanos := String.ofList (Text.paddedDigits 9 now.nanosecond.toNat)
  s!"{date}T{time}.{nanos}Z"

def utcNow : IO Std.Time.DateTime :=
  return .ofTimestampWithZone (← Std.Time.Timestamp.now) .UTC

def today : IO Date := do
  let now ← Std.Time.PlainDateTime.now
  return ⟨now.year.toInt, now.month.toNat, now.day.toNat⟩

/-! ### A run -/

/-- The paths that a run may look at, as far as they are known before its policy is read. -/
def pathsOf (env : Settings.Environment) (request : Request) : List String :=
  match Settings.Configuration.ofEnvironment env with
  | .error _ => request.inputs
  | .ok c => c.policyPath :: (request.output?.getD c.output) :: request.inputs

def carryOut (before after : FileTree) : IO Unit := do
  for place in after.directories do
    unless before.isDirectory place do IO.FS.createDirAll (pathOf place)
  for (place, bytes) in after.files do
    unless before.file? place == some bytes do
      IO.FS.writeBinFile (pathOf place) bytes.toByteArray

end Mentorship

open Mentorship Command in
def main (arguments : List String) : IO UInt32 := do
  let started ← utcNow
  let environment ← readVariables
  let working := FileTree.names (toString (← IO.currentDir))
  let mut tree : FileTree := ⟨[], [], working⟩
  tree ← lookAlong tree variablesFile
  if let some request := Request.ofArguments? arguments then
    let surroundings : Surroundings := ⟨environment, ← today, "", ""⟩
    if let (.ok env, _) := surroundings.variables.runOn tree then
      for path in pathsOf env request do
        tree ← lookAlong tree path
  let world : World := ⟨⟨environment, ← today, timeText started, timeText (← utcNow)⟩, tree⟩
  -- There may already be something at the places that are to be written.
  for (place, _) in (run world arguments).tree.files do
    tree ← look tree place
  let result := run { world with tree } arguments
  carryOut tree result.tree
  IO.print result.out
  IO.eprint result.err
  return result.exit.toUInt32
