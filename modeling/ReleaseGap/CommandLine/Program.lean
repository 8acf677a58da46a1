import ReleaseGap.CommandLine.Arguments
import ReleaseGap.Overrides.Stream
import ReleaseGap.Run.Execute
import ReleaseGap.Settings.Password
import ReleaseGap.Wiki.Client

/-!
# The two programs

One program makes the report and prints it, the other one stores a report on the wiki.  A program
prints nothing before all of its work is done, so that one that fails has printed nothing, unless it
is the printing that fails.
-/

namespace ReleaseGap.CommandLine

inductive Program where
  /-- Makes the report, with the override tables as its input. -/
  | report
  /-- Stores its input on the wiki. -/
  | publish
deriving DecidableEq, Repr

/-- What the system refuses a program. -/
structure Refusals where
  /-- Why the directory that the program is started in cannot be told. -/
  directory : Option Files.IoError := none
  /-- Why there is no runtime to ask questions in. -/
  runtime : Option Files.IoError := none
  /-- Why there is no client to ask servers with. -/
  client : Option String := none
  /-- How many octets of the output are taken, and why no more. -/
  output : Option (Nat × Files.IoError) := none

/-- What a program finds where it is started. -/
structure Surroundings where
  files : Files.Tree := {}
  /-- The directory of secrets. -/
  secrets : Option String := none
  input : List UInt8 := []
  refusals : Refusals := {}

/-- The settings that hold where a program is started. -/
def Surroundings.settings (s : Surroundings) : Except Settings.SettingsError Settings :=
  match s.refusals.directory with
  | some e => .error (.io e)
  | none => Settings.locateOrDefault s.files s.files.currentPath

/-- Why a program fails. -/
inductive Failure where
  | settings (e : Settings.SettingsError)
  | tables (e : Files.IoError)
  | runtime (e : Files.IoError)
  | run (e : RunError)
  | output (e : Files.IoError)
  | content (e : Files.IoError)
  | client (why : String)
  | publication (page : String) (e : Wiki.WikiError)
deriving DecidableEq, Repr

/-- What failed. -/
def Failure.context : Failure → String
  | .settings _ => "failed to load configuration"
  | .tables _ => "failed to read override tables from stdin"
  | .runtime _ => "failed to create async runtime"
  | .run _ => "report run failed"
  | .output _ => "failed to write report"
  | .content _ => "failed to read report from stdin"
  | .client _ => "failed to create wiki client"
  | .publication page _ => "failed to publish page '" ++ page ++ "'"

/-- Why it failed. -/
def Failure.cause : Failure → String
  | .settings e => e.message
  | .tables e => s!"IO error: {e.message}"
  | .runtime e => e.message
  | .run e => e.message
  | .output e => e.message
  | .content e => e.message
  | .client why => s!"HTTP error: {why}"
  | .publication _ e => e.message

/-- How a program ends. -/
inductive Ending where
  | reported (report : Report) (wording : Settings.Wording)
  | published
  /-- The arguments ended it. -/
  | usage (u : Usage)
  | failed (f : Failure)
  /-- It does not end: the listing of the organization's repositories has no last page. -/
  | outOfPages
deriving DecidableEq, Repr

namespace Program

def name : Program → String
  | .report => "unreleased"
  | .publish => "unreleased-publish"

def version : String := "0.1.0"

/-- The number of values that a program takes. -/
def room : Program → Nat
  | .report => 1
  | .publish => 0

/-- Makes the report. -/
def makeReport (s : Surroundings) (limit : Option String) (today : Calendar.Date) :
    Session Ending :=
  match s.settings with
  | .error e => pure (.failed (.settings e))
  | .ok settings =>
    match Overrides.Tables.readFrom s.input with
    | .error e => pure (.failed (.tables e))
    | .ok (tables, _) =>
      match s.refusals.runtime, s.refusals.client with
      | some e, _ => pure (.failed (.runtime e))
      | none, some why => pure (.failed (.run (.noClient why)))
      | none, none => do
        match ← Run.execute settings tables limit today with
        | .error (.failed e) => return .failed (.run e)
        | .error .outOfPages => return .outOfPages
        | .ok made => return .reported made settings.report

/-- Stores the input on the wiki. -/
def storeContent (s : Surroundings) : Session Ending :=
  match s.settings with
  | .error e => pure (.failed (.settings e))
  | .ok settings =>
    match Text.Utf8.decode? s.input with
    | none => pure (.failed (.content .notUtf8))
    | some content =>
      match s.refusals.client, s.refusals.runtime with
      | some why, _ => pure (.failed (.client why))
      | none, some e => pure (.failed (.runtime e))
      | none, none => do
        let password := settings.wiki.readPassword s.files s.secrets
        match ← Wiki.publish settings.wiki password content with
        | .error e => return .failed (.publication settings.wiki.page e)
        | .ok () => return .published

/-- Starts a program with arguments on some day. -/
def start (p : Program) (arguments : List String) (s : Surroundings) (today : Calendar.Date) :
    Session Ending :=
  match values p.room arguments with
  | .error u => pure (.usage u)
  | .ok values =>
    match p with
    | .report => makeReport s values.head? today
    | .publish => storeContent s

/-- The line that says how a program is called. -/
def usageLine : Program → String
  | .report => "Usage: unreleased [PREFIX]"
  | .publish => "Usage: unreleased-publish"

def about : Program → String
  | .report => "Report unreleased changes in plugin repositories"
  | .publish => "Publish a report read from stdin to the wiki"

def argumentHelp : Program → List String
  | .report =>
    ["Arguments:",
      "  [PREFIX]  Only process plugins and repositories whose name starts with this prefix", ""]
  | .publish => []

def optionHelp : List String :=
  ["Options:", "  -h, --help     Print help", "  -V, --version  Print version"]

def help (p : Program) : String :=
  let lines := [p.about, "", p.usageLine, ""] ++ p.argumentHelp ++ optionHelp
  String.join (lines.map (· ++ "\n"))

/-- What a program has to print, given when it ends and after how many seconds. -/
def output (p : Program) (generatedAt : String) (elapsedSeconds : Nat) : Ending → String
  | .reported made wording => made.render wording ++ Report.footer generatedAt elapsedSeconds
  | .usage .help => p.help
  | .usage .version => s!"{p.name} {version}\n"
  | _ => ""

/-- Prints what a program has to print: how it ends then, and what of it is taken.  The program
fails if a report is not taken as a whole, but not if its own help is not. -/
def print (p : Program) (refusals : Refusals) (generatedAt : String) (elapsedSeconds : Nat)
    (ending : Ending) : Ending × List UInt8 :=
  let octets := Text.Utf8.encode (p.output generatedAt elapsedSeconds ending)
  match refusals.output with
  | none => (ending, octets)
  | some (room, e) =>
    if octets.length ≤ room then (ending, octets)
    else
      match ending with
      | .reported _ _ => (.failed (.output e), octets.take room)
      | _ => (ending, octets.take room)

/-- What a program says besides. -/
def errorOutput (p : Program) : Ending → String
  | .failed f => s!"Error: {f.context}\n\nCaused by:\n    {f.cause}\n"
  | .usage (.unknownArgument argument) =>
    "error: unexpected argument '" ++ argument ++ "' found\n\n" ++ p.usageLine ++ "\n"
  | .usage (.unneededValue option) =>
    "error: unexpected value for '--" ++ option ++ "' found; no more were expected\n\n"
      ++ p.usageLine ++ "\n"
  | _ => ""

end Program

/-- The exit code of a program that ends so, if it ends. -/
def Ending.code : Ending → Option Nat
  | .reported _ _ => some 0
  | .published => some 0
  | .usage .help => some 0
  | .usage .version => some 0
  | .usage _ => some 2
  | .failed _ => some 1
  | .outOfPages => none

end ReleaseGap.CommandLine
