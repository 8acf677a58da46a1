import ReleaseGap.Overrides.Stream
import ReleaseGap.Text.Cut

/-!
# Plugins

A plugin as the metadata feed declares it, and as a run processes it once the operator's tables have
said where its sources are.
-/

namespace ReleaseGap

/-- What the feed says of a plugin. -/
structure FeedEntry where
  version : String
  wiki : Option String := none
  releaseTimestamp : Option String := none
  /-- The host of the sources. -/
  host : Option String := none
deriving DecidableEq, Repr

/-- The source control that a plugin's sources are kept in. -/
inductive SourceKind where
  | hostedGit
  | legacySvn
deriving DecidableEq, Repr

/-- A released plugin. -/
structure Plugin where
  id : String
  version : String
  wiki : Option String
  releaseTimestamp : Option String
  kind : SourceKind
  /-- The repository on the git host, or the directory in svn. -/
  repository : String
deriving DecidableEq, Repr

/-- The repository that suppresses a plugin. -/
def skipMark : String := "skip"

/-- Whether a host is the git host.  Only the case of ASCII letters does not count. -/
def isGitHost (host : String) : Bool :=
  Text.endsWith (Text.onChars (·.map Char.toLower) host) "github.com"

namespace Plugin

/-- Where the sources of a feed's plugin are kept. -/
def kindOf (id : String) (entry : FeedEntry) (tables : Overrides.Tables) : SourceKind :=
  if entry.host.any isGitHost || tables.reallyGithub.contains id then .hostedGit else .legacySvn

/-- The name of a repository that the tables say nothing about. -/
def defaultRepository (id : String) (kind : SourceKind) : String :=
  if kind = .hostedGit ∧ Text.endsWith id "-plugin" = false then id ++ "-plugin" else id

/-- The plugin to process, unless its repository is suppressed. -/
def ofFeed? (id : String) (entry : FeedEntry) (tables : Overrides.Tables) : Option Plugin :=
  let kind := kindOf id entry tables
  let repository := (tables.repositories.text? id).getD (defaultRepository id kind)
  if repository = skipMark then none
  else some
    { id, version := entry.version, wiki := entry.wiki
      releaseTimestamp := entry.releaseTimestamp, kind, repository }

end Plugin

end ReleaseGap
