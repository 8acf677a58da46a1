import ReleaseGap.Files.Error
import ReleaseGap.Outside.Session
import ReleaseGap.Svn.Listing
import ReleaseGap.Svn.Log
import ReleaseGap.Text.Utf8

/-!
# Calling svn

What is asked of the `svn` program: listings of tags and directories, and logs.
-/

namespace ReleaseGap.Svn

/-- Why a call gives nothing. -/
inductive CallError where
  /-- The program ran and failed. -/
  | failed (commandLine : String) (code : Nat) (errors : String)
  | io (e : Files.IoError)
  /-- The program's output is no document of the expected shape. -/
  | malformed
deriving DecidableEq, Repr

def CallError.message : CallError → String
  | .failed commandLine code errors => s!"`{commandLine}` failed (exit status: {code}): {errors}"
  | .io e => s!"IO error: {e.message}"
  | .malformed => "invalid XML"

/-- Calls the program with some arguments, and answers what it prints. -/
def call (command : String) (arguments : List String) : Session (Except CallError String) := do
  match ← Session.run ⟨command, "--non-interactive" :: arguments⟩ with
  | .notFound => return .error (.io .missing)
  | .exited code output errors =>
    if code = 0 then return .ok (Text.Utf8.decodeLossy output)
    else
      let line := command ++ " " ++ Text.joinWith " " arguments
      return .error (.failed line code (Text.onChars Text.trim (Text.Utf8.decodeLossy errors)))

/-- What a program prints, read as a document. -/
def readOutput {α : Type} (read? : String → Option α) (output : Except CallError String) :
    Except CallError α :=
  output.bind fun text =>
    match read? text with
    | some a => .ok a
    | none => .error .malformed

/-- The entries of all tag directories. -/
def listTags (command : String) (urls : List String) :
    Session (Except CallError (List SvnTag)) := do
  return readOutput readTags? (← call command ("ls" :: "--xml" :: urls))

/-- The directories in a directory. -/
def listDirectories (command url : String) : Session (Except CallError (List String)) := do
  return (← call command ["ls", url]).map directories

/-- The changes of a directory from a revision on. -/
def logSince (command url : String) (revision : UInt64) :
    Session (Except CallError (List Revision)) := do
  return readOutput readLog? (← call command ["log", "-r", s!"{revision}:HEAD", "--xml", url])

end ReleaseGap.Svn
