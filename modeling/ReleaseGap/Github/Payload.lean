import ReleaseGap.Change.Revision
import ReleaseGap.Json.Read
import ReleaseGap.Json.Record
import ReleaseGap.Tag.Release

/-!
# Answers of the git host

The tags and commits of a repository and the repositories of an organization, as the git host
answers them.
-/

namespace ReleaseGap.Github

open Json (Value)

/-- A commit with its date as it is written. -/
structure Commit where
  sha : String
  date : String
  message : String
deriving DecidableEq, Repr

/-- Reads an answer that is a list of records. -/
def readList? {α : Type} (item? : Value → Option α) (body : String) : Option (List α) := do
  (← (← Json.read? body.toList).items?).mapM item?

/-- The one text in a record with one field. -/
def soleText? (field : String) (v : Value) : Option String := do
  match ← v.fields? [field] with
  | [some text] => text.text?
  | _ => none

def readTag? (v : Value) : Option Tag := do
  match ← v.fields? ["name", "commit"] with
  | [some name, some commit] => return ⟨← name.text?, ← soleText? "sha" commit⟩
  | _ => none

/-- Reads a date and a message; a missing message is empty. -/
def readDetail? (v : Value) : Option (String × String) := do
  match ← v.fields? ["author", "message"] with
  | [some author, message] =>
    let message ← match message with
      | some m => m.text?
      | none => some ""
    return (← soleText? "date" author, message)
  | _ => none

def readCommit? (v : Value) : Option Commit := do
  match ← v.fields? ["sha", "commit"] with
  | [some sha, some commit] =>
    let (date, message) ← readDetail? commit
    return ⟨← sha.text?, date, message⟩
  | _ => none

def readTags? : String → Option (List Tag) := readList? readTag?

def readCommits? : String → Option (List Commit) := readList? readCommit?

/-- The names of repositories. -/
def readNames? : String → Option (List String) := readList? (soleText? "name")

/-- The changes down to a boundary.  A commit is taken before it is compared with the boundary, so
that this is the last one; a commit without readable date is left out but is a boundary all the
same. -/
def revisionsThrough : List Commit → String → List Revision
  | [], _ => []
  | c :: rest, boundary =>
    let others := if c.sha = boundary then [] else revisionsThrough rest boundary
    match Revision.ofTimestamp? c.date c.message with
    | some revision => revision :: others
    | none => others

end ReleaseGap.Github
