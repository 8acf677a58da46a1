import ReleaseGap.Github.Payload
import ReleaseGap.Outside.Fetch
import ReleaseGap.Settings.Basic
import ReleaseGap.Text.Cut

/-!
# Asking the git host

What is asked of the git host: tags, commits, the repositories of an organization and single files.
A request that fails twice, and an answer of another shape, give nothing.
-/

namespace ReleaseGap.Github

/-- The roots below which the host answers. -/
structure Client where
  apiUrl : String
  rawUrl : String

namespace Client

def ofSettings (s : Settings.Github) : Client :=
  ⟨Text.dropEndSlashes s.apiUrl, Text.dropEndSlashes s.rawUrl⟩

/-- Fetches an address and reads the answer. -/
def fetchRead {α : Type} (url : String) (read? : String → Option α) : Session (Option α) := do
  return (← Session.fetchPolitely url).bind read?

def tagsUrl (c : Client) (repository : String) : String := s!"{c.apiUrl}/repos/{repository}/tags"

def commitsUrl (c : Client) (repository : String) : String :=
  s!"{c.apiUrl}/repos/{repository}/commits"

def pageUrl (c : Client) (organization : String) (page : Nat) : String :=
  s!"{c.apiUrl}/orgs/{organization}/repos?page={page}&per_page=100"

def fileUrl (c : Client) (repository reference path : String) : String :=
  s!"{c.rawUrl}/{repository}/raw/{reference}/{path}"

def tags (c : Client) (repository : String) : Session (Option (List Tag)) :=
  fetchRead (c.tagsUrl repository) readTags?

/-- The latest commits, the newest first. -/
def commits (c : Client) (repository : String) : Session (Option (List Commit)) :=
  fetchRead (c.commitsUrl repository) readCommits?

/-- One page of the names of an organization's repositories. -/
def repositories (c : Client) (organization : String) (page : Nat) :
    Session (Option (List String)) :=
  fetchRead (c.pageUrl organization page) readNames?

/-- A file at a tag or commit. -/
def file (c : Client) (repository reference path : String) : Session (Option String) :=
  Session.fetchPolitely (c.fileUrl repository reference path)

end Client

end ReleaseGap.Github
