import ReleaseGap.Github.Client
import ReleaseGap.Source.Collected
import ReleaseGap.Source.Descriptor
import ReleaseGap.Tag.Matcher

/-!
# The git host as a source

Releases come out of the tags that match a plugin, the changes since out of the list of commits down
to the one that the tag refers to.
-/

namespace ReleaseGap.Github

structure Backend where
  client : Client
  webUrl : String
  organization : String
  /-- The branch that a release is compared with. -/
  compareBranch : String
  /-- Tag rules by plugin id. -/
  tagRules : Overrides.Table := {}

namespace Backend

def ofSettings (s : Settings.Github) (tagRules : Overrides.Table) : Backend :=
  { client := .ofSettings s
    webUrl := Text.dropEndSlashes s.webUrl
    organization := s.organization
    compareBranch := s.compareBranch
    tagRules }

/-- A repository with its owner, which is the organization where none is given. -/
def qualified (b : Backend) (repository : String) : String :=
  if repository.toList.contains '/' then repository else s!"{b.organization}/{repository}"

/-- The version in the project descriptor of a directory at a tag. -/
def descriptorVersion (b : Backend) (repository tag directory : String) :
    Session (Option String) := do
  let document ← b.client.file repository tag s!"{directory}/pom.xml"
  return (document.bind Descriptor.version?).join

/-- The version that a tag marks, if it marks one. -/
def versionOf (b : Backend) (matcher : TagMatcher) (repository : String) (tag : Tag) :
    Session (Option String) :=
  match matcher.matchTag tag.name with
  | .version v => pure (some v)
  | .lookUp _ directory => b.descriptorVersion repository tag.name directory
  | .unmatched => pure none

/-- The tags that mark versions, with the versions. -/
def candidates (b : Backend) (matcher : TagMatcher) (repository : String) :
    List Tag → Session (List (String × Tag))
  | [] => pure []
  | tag :: rest => do
    let version ← b.versionOf matcher repository tag
    let others ← b.candidates matcher repository rest
    return (version.map (·, tag)).toList ++ others

/-- The matcher of a plugin's tags, by its id and its rule. -/
def matcher (b : Backend) (id : String) : TagMatcher :=
  TagMatcher.ofRule id ((b.tagRules.text? id).map TagRule.ofText)

def latestRelease (b : Backend) (plugin : Plugin) : Session (Option Release) := do
  let repository := b.qualified plugin.repository
  match ← b.client.tags repository with
  | none => return none
  | some tags =>
    let found ← b.candidates (b.matcher plugin.id) repository tags
    return (Release.latest? found).map fun (version, tag) => ⟨version, tag⟩

/-- The changes since a release, none if they cannot be told. -/
def revisionsSince (b : Backend) (plugin : Plugin) (release : Release) :
    Session (List Revision) := do
  match ← b.client.commits (b.qualified plugin.repository) with
  | none => return []
  | some commits => return revisionsThrough commits release.tag.reference

/-- The page that compares a release with the branch, or the page of the repository. -/
def compareUrl (b : Backend) (plugin : Plugin) (release : Option Release) : String :=
  let repository := b.qualified plugin.repository
  match release with
  | some r => s!"{b.webUrl}/{repository}/compare/{r.tag.name}...{b.compareBranch}"
  | none => s!"{b.webUrl}/{repository}"

def source (b : Backend) : Source where
  latestRelease := b.latestRelease
  revisionsSince := b.revisionsSince
  compareUrl := b.compareUrl

end Backend

end ReleaseGap.Github
