import ReleaseGap.Change.Revision
import ReleaseGap.Outside.Session
import ReleaseGap.Feed.Plugin
import ReleaseGap.Tag.Release

/-!
# Collecting changes

A source answers for a plugin its latest release and the changes since, each by asking the outside.
What is collected of it never fails: where a release or its changes are missing, an entry in the
table of known revisions keeps the plugin from being called current.
-/

namespace ReleaseGap

/-- What a plugin's latest release and the changes since are asked of. -/
structure Source where
  latestRelease : Plugin → Session (Option Release)
  revisionsSince : Plugin → Release → Session (List Revision)
  /-- The page that shows the changes since a release. -/
  compareUrl : Plugin → Option Release → String

/-- The version of a plugin whose release was not found. -/
def unknownVersion : String := "?"

structure Collected where
  version : String
  revisions : List Revision
  compareUrl : String
deriving DecidableEq

/-- Collects the changes of a plugin since its latest release. -/
def Source.collect (source : Source) (plugin : Plugin) (known : Overrides.Table) :
    Session (Collected × Overrides.Table) := do
  let release ← source.latestRelease plugin
  let compareUrl := source.compareUrl plugin release
  match release with
  | none =>
    let known := known.seed s!"{plugin.id}-{unknownVersion}-0" unknownVersion
    return (⟨unknownVersion, [], compareUrl⟩, known)
  | some release =>
    let revisions ← source.revisionsSince plugin release
    let known :=
      if revisions.isEmpty then known.seed s!"{plugin.id}-{release.version}-0" unknownVersion
      else known
    return (⟨release.version, revisions, compareUrl⟩, known)

end ReleaseGap
