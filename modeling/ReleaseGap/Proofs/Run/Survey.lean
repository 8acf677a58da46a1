import ReleaseGap.Proofs.Source.Examined
import ReleaseGap.Run.Execute

/-!
# A run as a survey

What a run asks of the outside does not depend on the table of known revisions nor on the rows made
so far.  A run is therefore a survey, which asks all the questions in their order, followed by a
function that assembles the report from what the survey found.
-/
namespace ReleaseGap

namespace Context

/-- Whether an svn directory gets a row. -/
def wantsDirectory (c : Context) (name : String) : Bool :=
  c.admits name && !c.isSkipped name && !c.hasSeenSvn name

/-- Whether a repository of the organization gets a row. -/
def wantsRepository (c : Context) (name : String) : Bool :=
  c.admits name && !c.isSkipped name && !c.hasSeenGithub name

end Context

namespace Run

/-- The plugin that an entry of a feed gives, if a run processes it. -/
def pluginOf? (c : Context) (e : String × FeedEntry) : Option Plugin :=
  if c.admits e.1 then Plugin.ofFeed? e.1 e.2 c.tables else none

/-- The plugins of a feed that a run processes. -/
def pluginsOf (c : Context) (feed : List (String × FeedEntry)) : List Plugin :=
  feed.filterMap (pluginOf? c)

/-- What a run finds outside. -/
structure Survey where
  collected : List (Plugin × Collected)
  directories : List String
  repositories : List String

/-- Asks for the changes of a plugin. -/
def collectedFor (run : Run) (plugin : Plugin) : Session (Plugin × Collected) := do
  let answer ← (run.sourceOf plugin).answer plugin
  return (plugin, (run.sourceOf plugin).collectedOf plugin answer)

/-- Asks for what a run looks at before the organization: the changes of the plugins and the svn
directories. -/
def visit (run : Run) (plugins : List Plugin) :
    Session (List (Plugin × Collected) × List String) := do
  let collected ← plugins.mapM run.collectedFor
  let directories ← run.svn.trunkDirectories
  return (collected, directories)

/-- Asks for the organization's repositories from a page on, as far as pages can be had; nothing
comes of it if so many pages all list something. -/
def repositoriesFrom (run : Run) : Nat → Nat → Session (Option (List String))
  | 0, _ => pure none
  | pages + 1, page => do
    match ← run.github.client.repositories run.settings.github.organization page with
    | none => return some []
    | some [] => return some []
    | some names => return (← run.repositoriesFrom pages (page + 1)).map (names ++ ·)

/-- Asks all that a run asks once the feed and the svn tags are known. -/
def survey (run : Run) (plugins : List Plugin) : Session (Option Survey) := do
  let (collected, directories) ← run.visit plugins
  let repositories ← run.repositoriesFrom lastPage 1
  return repositories.map (Survey.mk collected directories)

/-- Adds the row of a released plugin by what was collected for it. -/
def addCollected (run : Run) (p : Progress) (found : Plugin × Collected) : Progress :=
  let (plugin, c) := found
  let known := p.context.tables.knownRevisions
  let classification := (run.classifier.classify plugin.id plugin.version c.version c.revisions
    (c.seed plugin.id known)).1
  ⟨(markCovered p.context plugin).withKnown (known.erase (c.key plugin.id)),
    p.report.push (Report.Row.released plugin c classification run.today)⟩

/-- The progress that a survey leads to. -/
def assemble (run : Run) (c : Context) (s : Survey) : Progress :=
  let p := s.collected.foldl run.addCollected { context := c }
  let p := { p with context := p.context.propagateSkips }
  s.repositories.foldl run.addRepository (s.directories.foldl run.addDirectory p)

@[simp] theorem tables_markCovered (c : Context) (plugin : Plugin) :
    (markCovered c plugin).tables = c.tables := by
  rw [markCovered]
  cases plugin.kind <;> rfl

@[simp] theorem limit_markCovered (c : Context) (plugin : Plugin) :
    (markCovered c plugin).limit = c.limit := by
  rw [markCovered]
  cases plugin.kind <;> rfl

/-- The row of a released plugin comes of one examination with the table as it is then. -/
theorem addReleased_eq_examine (run : Run) (p : Progress) (plugin : Plugin) :
    run.addReleased p plugin = (run.sourceOf plugin).examine run.classifier plugin
        p.context.tables.knownRevisions >>= fun e =>
      pure ⟨(markCovered p.context plugin).withKnown e.known,
        p.report.push (Report.Row.released plugin e.collected e.classification run.today)⟩ := by
  rw [addReleased, Source.examine]
  simp

theorem addReleased_eq (run : Run) (p : Progress) (plugin : Plugin) :
    run.addReleased p plugin = run.collectedFor plugin >>= fun found =>
      pure (run.addCollected p found) := by
  rw [addReleased_eq_examine, Source.examine_eq]
  simp [collectedFor, addCollected]

/-- Which plugin an entry gives does not depend on what was added before. -/
theorem pluginOf?_addCollected (run : Run) (p : Progress) (found : Plugin × Collected) :
    pluginOf? (run.addCollected p found).context = pluginOf? p.context := by
  funext e
  simp [pluginOf?, Context.admits, Plugin.ofFeed?, Plugin.kindOf, addCollected,
    Context.withKnown]

theorem addPlugins_cons_of_none {run : Run} {p : Progress} {e : String × FeedEntry}
    (h : pluginOf? p.context e = none) (feed : List (String × FeedEntry)) :
    run.addPlugins p (e :: feed) = run.addPlugins p feed := by
  rw [pluginOf?] at h
  simp only [addPlugins, h]

theorem addPlugins_cons_of_some {run : Run} {p : Progress} {e : String × FeedEntry}
    {plugin : Plugin} (h : pluginOf? p.context e = some plugin)
    (feed : List (String × FeedEntry)) :
    run.addPlugins p (e :: feed)
      = run.addReleased p plugin >>= fun p => run.addPlugins p feed := by
  rw [pluginOf?] at h
  simp only [addPlugins, h]

theorem addPlugins_eq (run : Run) (p : Progress) (feed : List (String × FeedEntry)) :
    run.addPlugins p feed = (pluginsOf p.context feed).mapM run.collectedFor >>= fun collected =>
      pure (collected.foldl run.addCollected p) := by
  induction feed generalizing p with
  | nil => rfl
  | cons e feed ih =>
    rw [pluginsOf]
    cases hplugin : pluginOf? p.context e with
    | none =>
      rw [addPlugins_cons_of_none hplugin, List.filterMap_cons_none hplugin]
      exact ih p
    | some plugin =>
      rw [addPlugins_cons_of_some hplugin, List.filterMap_cons_some hplugin]
      simp only [addReleased_eq, ih, pluginsOf, pluginOf?_addCollected, List.mapM_cons,
        bind_assoc, pure_bind, List.foldl_cons]

theorem addPages_eq (run : Run) (pages page : Nat) (p : Progress) :
    run.addPages pages page p = run.repositoriesFrom pages page >>= fun names =>
      pure (names.map fun names => names.foldl run.addRepository p) := by
  induction pages generalizing page p with
  | zero => rfl
  | succ pages ih =>
    simp only [addPages, repositoriesFrom, bind_assoc]
    congr 1
    funext names
    rcases names with _ | _ | ⟨name, names⟩
    · rfl
    · rfl
    · simp only [ih, bind_assoc, pure_bind, Option.map_map, Function.comp_def, List.foldl_append]

/-- Adding all rows is a survey and then the assembly of what it found. -/
theorem addAll_eq (run : Run) (c : Context) (feed : List (String × FeedEntry)) :
    run.addAll c feed = run.survey (pluginsOf c feed) >>= fun s =>
      pure (s.map (run.assemble c)) := by
  simp only [addAll, addPlugins_eq, addPages_eq, survey, visit, assemble, bind_assoc, pure_bind,
    Option.map_map, Function.comp_def]

end Run
end ReleaseGap
