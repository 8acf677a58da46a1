import ReleaseGap.Calendar.Moment
import ReleaseGap.CommandLine.Program
import ReleaseGap.Outside.Snapshot
import Std.Time.Zoned

/-!
# The command line

Started under a name that contains `publish` this is the program that stores a report, otherwise the
one that makes it.  Servers and `svn` are answered for by a snapshot, whose file the environment
names.
-/

namespace ReleaseGap.CommandLine

def failureOf : IO.Error → Files.IoError
  | .noFileOrDirectory .. => .missing
  | .permissionDenied .. => .denied
  | e => .other (toString e)

/-- What a path leads to, read.  What cannot be looked at counts as nothing, so that a denial that
is met in reading is one of the file itself. -/
def nodeAt (path : String) : IO (Option Files.Node) := do
  let file := (← IO.currentDir) / path
  unless ← file.pathExists do return none
  try
    return some (.file (← IO.FS.readBinFile file).toList)
  catch
    | .inappropriateType .. => return some .directory
    | .permissionDenied .. => return some .locked
    | e => throw e

/-- The names on the way to an absolute path. -/
def place (path : String) : List String :=
  ((Text.fields '/' path.toList).map String.ofList).filter (· ≠ "")

/-- What of the file system concerns a program: settings files and the file with the password. -/
def surroundingFiles (directory : String) (secrets : Option String) : IO Files.Tree := do
  let current := place directory
  let mut tree : Files.Tree := { nodes := [(current, .directory)], current }
  let settingsFiles := Settings.candidates directory
  for path in settingsFiles do
    if let some node ← nodeAt path then
      tree := { tree with nodes := (place path, node) :: tree.nodes }
  if let .ok settings := Settings.locateOrDefault tree directory then
    if let .ok path := settings.wiki.passwordPath secrets then
      let absolute := if path.startsWith "/" then path else s!"{directory}/{path}"
      if let some node ← nodeAt absolute then
        tree := { tree with nodes := (place absolute, node) :: tree.nodes }
  return tree

/-- The snapshot that the environment names, empty if it names none. -/
def snapshot : IO Snapshot := do
  match ← IO.getEnv "RELEASE_GAP_SNAPSHOT" with
  | none => return {}
  | some path =>
    match Snapshot.ofText? (← IO.FS.readFile path) with
    | some s => return s
    | none => throw (IO.userError s!"no snapshot: {path}")

/-- What of the file system a program finds, or why its directory cannot be told. -/
def foundFiles (secrets : Option String) : IO (Files.Tree × Refusals) := do
  match ← IO.currentDir.toBaseIO with
  | .ok directory => return (← surroundingFiles directory.toString secrets, {})
  | .error e => return ({}, { directory := some (failureOf e) })

/-- The present moment on the local clock. -/
def now : IO Calendar.Moment := do
  let t ← Std.Time.Timestamp.now
  let rules ← Std.Time.Database.defaultGetLocalZoneRules
  let offset := (rules.timezoneAt t).offset.second.val / 60
  match Calendar.Moment.ofSeconds? t.toSecondsSinceUnixEpoch.val offset with
  | some m => return m
  | none => throw (IO.userError "the clock shows no day")

/-- Prints what a program has to print, and answers how it ends. -/
def printOutput (program : Program) (generatedAt : String) (elapsedSeconds : Nat)
    (ending : Ending) : IO Ending := do
  let (printed, octets) := program.print {} generatedAt elapsedSeconds ending
  try
    let stdout ← IO.getStdout
    stdout.write ⟨octets.toArray⟩
    stdout.flush
    return printed
  catch e =>
    let refusals : Refusals := { output := some (0, failureOf e) }
    return (program.print refusals generatedAt elapsedSeconds ending).1

/-- Runs the program that is called, and answers its exit code. -/
def runCalled (arguments : List String) : IO UInt32 := do
  let started ← IO.monoMsNow
  let programName := (← IO.appPath).fileName.getD ""
  let program : Program := if Text.contains programName "publish" then .publish else .report
  let secrets ← IO.getEnv "SECRET_DIR"
  let (files, refusals) ← foundFiles secrets
  -- A program that its arguments end waits for no input.
  let input ← match values program.room arguments with
    | .ok _ => (← IO.getStdin).readBinToEnd
    | .error _ => pure .empty
  let session := program.start arguments ⟨files, secrets, input.toList, refusals⟩ (← now).date
  let (ending, _) := session.runIn (← snapshot).world
  let elapsed := (← IO.monoMsNow) - started
  let ending ← printOutput program (← now).text (elapsed / 1000) ending
  IO.eprint (program.errorOutput ending)
  match ending.code with
  | some code => return code.toUInt32
  | none => throw (IO.userError "the listing of the repositories does not end")

end ReleaseGap.CommandLine

def main (arguments : List String) : IO UInt32 := ReleaseGap.CommandLine.runCalled arguments
