import ReleaseGap.Settings.Basic
import ReleaseGap.Source.Collected
import ReleaseGap.Svn.Client

/-!
# The svn repository as a source

Releases come out of an index of all tags, which is made once; the changes since out of the log from
the revision on that the tag was made in.
-/

namespace ReleaseGap.Svn

structure Backend where
  settings : Settings.Svn
  index : SvnIndex := {}

namespace Backend

/-- Lists all tags.  If they cannot be listed, no plugin has a release. -/
def connect (settings : Settings.Svn) : Session Backend := do
  match ← listTags settings.command settings.tagUrls with
  | .ok tags => return ⟨settings, SvnIndex.ofTags tags⟩
  | .error _ => return ⟨settings, {}⟩

/-- The page that shows a directory of the plugins. -/
def browseUrl (b : Backend) (directory : String) : String :=
  s!"{Text.dropEndSlashes b.settings.fisheyeUrl}/browse/Jenkins"
    ++ s!"/{b.settings.pluginsPath}/{directory}"

/-- The directories of all plugins, none if they cannot be listed. -/
def trunkDirectories (b : Backend) : Session (List String) := do
  match ← listDirectories b.settings.command b.settings.pluginsUrl with
  | .ok names => return names
  | .error _ => return []

/-- The release that the index has of a plugin. -/
def release? (b : Backend) (plugin : Plugin) : Option Release :=
  (b.index.lookup? plugin.id plugin.repository).map fun found =>
    ⟨found.version, ⟨found.tag, toString found.revision⟩⟩

/-- The revision that a release refers to. -/
def revisionOf? (release : Release) : Option UInt64 :=
  (Decimal.natBelow? (Nat.pow 2 64) release.tag.reference.toList).map UInt64.ofNat

/-- The changes since a release, none if they cannot be told. -/
def revisionsSince (b : Backend) (plugin : Plugin) (release : Release) :
    Session (List Revision) := do
  match revisionOf? release with
  | none => return []
  | some revision =>
    let url := s!"{b.settings.pluginsUrl}/{plugin.repository}"
    match ← logSince b.settings.command url revision with
    | .ok revisions => return revisions
    | .error _ => return []

/-- The page that shows the changes of a plugin since the time of its release. -/
def compareUrl (b : Backend) (plugin : Plugin) : String :=
  let directory := s!"{b.settings.pluginsPath}/{plugin.repository}"
  s!"{Text.dropEndSlashes b.settings.fisheyeUrl}/search/Jenkins/{directory}"
    ++ s!"?ql=select%20revisions%20from%20dir%20/{directory}%20where%20date%20%3E=%20"
    ++ plugin.releaseTimestamp.getD ""
    ++ "%20group%20by%20changeset%20return%20csid,%20comment,%20author,%20path"

def source (b : Backend) : Source where
  latestRelease plugin := pure (b.release? plugin)
  revisionsSince := b.revisionsSince
  compareUrl plugin _ := b.compareUrl plugin

end Backend

end ReleaseGap.Svn
