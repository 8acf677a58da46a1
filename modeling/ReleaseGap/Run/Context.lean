import ReleaseGap.Feed.Plugin
import ReleaseGap.Report.Render

/-!
# The context of a run

The operator's tables and what a run has seen so far.  Entries of known revisions are used up as
they match, and those left at the end were of no use.
-/

namespace ReleaseGap

structure Context where
  tables : Overrides.Tables := {}
  /-- What names have to begin with; none if all names count. -/
  limit : Option String := none
  /-- The repositories of the git host that are covered by a release. -/
  seenGithub : List String := []
  /-- The svn directories that are covered by a release. -/
  seenSvn : List String := []

namespace Context

/-- The context at the start of a run.  An empty limit is none. -/
def start (tables : Overrides.Tables) (limit : Option String) : Context :=
  { tables, limit := limit.filter (· ≠ "") }

/-- Whether a name is within the limit. -/
def admits (c : Context) (name : String) : Bool := c.limit.all fun l => Text.startsWith name l

/-- Whether the operator suppresses a name. -/
def isSkipped (c : Context) (name : String) : Bool :=
  c.tables.repositories.text? name == some skipMark

/-- The table in which `name-plugin` is suppressed for each name that is. -/
def withPluginNamesSkipped (t : Overrides.Table) : Overrides.Table :=
  let skipped := t.entries.filter fun e => e.2.content == skipMark
  (skipped.map fun e => e.1 ++ "-plugin").foldl (fun t name => t.insert name (.text skipMark)) t

def propagateSkips (c : Context) : Context :=
  { c with tables :=
    { c.tables with repositories := withPluginNamesSkipped c.tables.repositories } }

def markGithub (c : Context) (repository : String) : Context :=
  { c with seenGithub := repository :: c.seenGithub }

def markSvn (c : Context) (directory : String) : Context :=
  { c with seenSvn := directory :: c.seenSvn }

def hasSeenGithub (c : Context) (repository : String) : Bool := c.seenGithub.contains repository

def hasSeenSvn (c : Context) (directory : String) : Bool := c.seenSvn.contains directory

/-- The context with another table of known revisions. -/
def withKnown (c : Context) (known : Overrides.Table) : Context :=
  { c with tables := { c.tables with knownRevisions := known } }

/-- The key of the operator's entry for a name that was never released. -/
def unreleasedKey (name : String) : String := s!"{name}-{unreleasedLabel}"

/-- The label of a name that was never released.  The operator's entry for it is used up. -/
def takeUnreleasedLabel (c : Context) (name : String) : String × Context :=
  let (entry, known) := c.tables.knownRevisions.take (unreleasedKey name)
  let label := match entry with
    | some (.text s) => if s = "" then unreleasedLabel else s
    | _ => unreleasedLabel
  (label, c.withKnown known)

/-- The entries of known revisions within the limit that nothing has used. -/
def unused (c : Context) : List (String × String) :=
  (c.tables.knownRevisions.entries.filter fun e => c.admits e.1).map fun e => (e.1, e.2.content)

end Context

end ReleaseGap
