import ReleaseGap.Feed.Read
import ReleaseGap.Github.Backend
import ReleaseGap.Run.Context
import ReleaseGap.Svn.Backend

/-!
# Runs

A run makes the report: a row for each released plugin of the feed, then rows for what the svn
repository and the organization on the git host have besides and was never released.  A run fails
only if the feed cannot be had; whatever else fails shows in the rows.  It comes to no report either
where the listing of the organization's repositories does not end.
-/

namespace ReleaseGap

/-- Why a run fails. -/
inductive RunError where
  /-- There is no client to ask with. -/
  | noClient (why : String)
  | feedUnavailable (url : String)
  | feedMalformed
deriving DecidableEq, Repr

def RunError.message : RunError → String
  | .noClient why => s!"source control error: HTTP error: {why}"
  | .feedUnavailable url => s!"unable to fetch plugin metadata from {url}"
  | .feedMalformed => "malformed plugin metadata"

/-- Why there is no report. -/
inductive NoReport where
  | failed (e : RunError)
  /-- Every page of the listing that has a number lists something: the run keeps asking. -/
  | outOfPages
deriving DecidableEq, Repr

/-- What a run is made with. -/
structure Run where
  settings : Settings
  today : Calendar.Date
  github : Github.Backend
  svn : Svn.Backend

namespace Run

/-- A run as far as it has come. -/
structure Progress where
  context : Context
  report : Report := {}

def classifier (run : Run) : Classifier := .ofSettings run.settings.issues

/-- Marks what a plugin covers, under its names on the git host and in svn. -/
def markCovered (c : Context) (plugin : Plugin) : Context :=
  match plugin.kind with
  | .hostedGit => (c.markGithub plugin.repository).markSvn plugin.id
  | .legacySvn => (c.markSvn plugin.repository).markGithub (plugin.repository ++ "-plugin")

def sourceOf (run : Run) (plugin : Plugin) : Source :=
  match plugin.kind with
  | .hostedGit => run.github.source
  | .legacySvn => run.svn.source

/-- Adds the row of a released plugin. -/
def addReleased (run : Run) (p : Progress) (plugin : Plugin) : Session Progress := do
  let context := markCovered p.context plugin
  let (collected, known) ←
    (run.sourceOf plugin).collect plugin context.tables.knownRevisions
  let (classification, known) :=
    run.classifier.classify plugin.id plugin.version collected.version collected.revisions known
  let row := Report.Row.released plugin collected classification run.today
  return ⟨context.withKnown known, p.report.push row⟩

/-- Adds the rows of the plugins in the feed. -/
def addPlugins (run : Run) (p : Progress) : List (String × FeedEntry) → Session Progress
  | [] => pure p
  | (id, entry) :: rest => do
    let plugin :=
      if p.context.admits id then Plugin.ofFeed? id entry p.context.tables else none
    match plugin with
    | none => run.addPlugins p rest
    | some plugin =>
      let p ← run.addReleased p plugin
      run.addPlugins p rest

/-- Adds the row of a name that was never released. -/
def addUnreleased (p : Progress) (name url : String) : Progress :=
  let (label, context) := p.context.takeUnreleasedLabel name
  ⟨context, p.report.push (Report.Row.unreleased name url label)⟩

/-- Adds the row of an svn directory, unless it is covered or suppressed. -/
def addDirectory (run : Run) (p : Progress) (name : String) : Progress :=
  let c := p.context
  if !c.admits name || c.isSkipped name || c.hasSeenSvn name then p
  else
    let p := addUnreleased p name (run.svn.browseUrl name)
    { p with context := p.context.markGithub (name ++ "-plugin") }

/-- Adds the row of a repository of the organization, unless it is covered or suppressed. -/
def addRepository (run : Run) (p : Progress) (name : String) : Progress :=
  let c := p.context
  if !c.admits name || c.isSkipped name || c.hasSeenGithub name then p
  else
    let webUrl := Text.dropEndSlashes run.settings.github.webUrl
    addUnreleased p name s!"{webUrl}/{run.settings.github.organization}/{name}"

/-- Adds the repositories of the organization from a page on, up to one that is empty or cannot be
had; nothing comes of it if so many pages all list something. -/
def addPages (run : Run) : Nat → Nat → Progress → Session (Option Progress)
  | 0, _, _ => pure none
  | pages + 1, page, p => do
    match ← run.github.client.repositories run.settings.github.organization page with
    | none => return some p
    | some [] => return some p
    | some names => run.addPages pages (page + 1) (names.foldl run.addRepository p)

/-- The greatest number a page can have. -/
def lastPage : Nat := Nat.pow 2 32 - 1

/-- Adds all rows to an empty report, if the listing ends. -/
def addAll (run : Run) (context : Context) (feed : List (String × FeedEntry)) :
    Session (Option Progress) := do
  let p ← run.addPlugins { context } feed
  let p := { p with context := p.context.propagateSkips }
  let directories ← run.svn.trunkDirectories
  run.addPages lastPage 1 (directories.foldl run.addDirectory p)

/-- What there is, if the listing ended. -/
def orOutOfPages {α : Type} : Option α → Except NoReport α
  | none => .error .outOfPages
  | some a => .ok a

/-- Executes a run and answers its report, sorted. -/
def execute (settings : Settings) (tables : Overrides.Tables) (limit : Option String)
    (today : Calendar.Date) : Session (Except NoReport Report) := do
  match ← Session.fetch settings.feed.url with
  | none => return .error (.failed (.feedUnavailable settings.feed.url))
  | some body =>
    match Feed.read? body with
    | none => return .error (.failed .feedMalformed)
    | some feed =>
      let github := Github.Backend.ofSettings settings.github tables.tagRules
      let svn ← Svn.Backend.connect settings.svn
      let context := Context.start { tables with tagRules := {} } limit
      let p ← addAll ⟨settings, today, github, svn⟩ context feed
      return orOutOfPages (p.map fun p => { p.report with unused := p.context.unused }.sort)

end Run

end ReleaseGap
