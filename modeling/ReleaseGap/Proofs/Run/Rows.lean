import ReleaseGap.Proofs.Run.Pages
import ReleaseGap.Proofs.Run.Unused

/-!
# The rows of a run

Once the feed is there, a run makes its report in every world in which the listing of the
organization's repositories ends.  However requests and calls fail, the report has one row for each
plugin that the feed gives within the limit, one for each listed directory and one for each listed
repository that is neither covered nor suppressed.
-/
namespace ReleaseGap

/-- The svn directory that a plugin covers. -/
def Plugin.coveredDirectory (plugin : Plugin) : String :=
  match plugin.kind with
  | .hostedGit => plugin.id
  | .legacySvn => plugin.repository

/-- The repository on the git host that a plugin covers. -/
def Plugin.coveredRepository (plugin : Plugin) : String :=
  match plugin.kind with
  | .hostedGit => plugin.repository
  | .legacySvn => plugin.repository ++ "-plugin"

namespace Run

theorem markCovered_eq (c : Context) (plugin : Plugin) :
    markCovered c plugin =
      (c.markGithub plugin.coveredRepository).markSvn plugin.coveredDirectory := by
  rw [markCovered, Plugin.coveredRepository, Plugin.coveredDirectory]
  cases plugin.kind <;> rfl

namespace Item

/-- The svn directories that an item covers. -/
def coveredDirectories : Item → List String
  | .released plugin _ => [plugin.coveredDirectory]
  | .directory _ => []
  | .repository _ => []

/-- The repositories on the git host that an item covers. -/
def coveredRepositories : Item → List String
  | .released plugin _ => [plugin.coveredRepository]
  | .directory name => [name ++ "-plugin"]
  | .repository _ => []

theorem mark_eq (c : Context) (item : Item) :
    mark c item = { c with
      seenGithub := item.coveredRepositories ++ c.seenGithub
      seenSvn := item.coveredDirectories ++ c.seenSvn } := by
  cases item with
  | released plugin collected => exact markCovered_eq c plugin
  | directory name => rfl
  | repository name => rfl

end Item

/-- Marking items changes nothing but what has been seen. -/
theorem markAll_eq (c : Context) (items : List Item) :
    markAll c items = { c with
      seenGithub := items.reverse.flatMap Item.coveredRepositories ++ c.seenGithub
      seenSvn := items.reverse.flatMap Item.coveredDirectories ++ c.seenSvn } := by
  induction items generalizing c with
  | nil => rfl
  | cons item items ih =>
    rw [markAll, List.foldl_cons, ← markAll, ih, Item.mark_eq]
    simp

theorem hasSeenSvn_markAll (c : Context) (items : List Item) (name : String) :
    (markAll c items).hasSeenSvn name = true ↔
      name ∈ items.flatMap Item.coveredDirectories ∨ c.hasSeenSvn name = true := by
  simp [markAll_eq, Context.hasSeenSvn]

theorem hasSeenGithub_markAll (c : Context) (items : List Item) (name : String) :
    (markAll c items).hasSeenGithub name = true ↔
      name ∈ items.flatMap Item.coveredRepositories ∨ c.hasSeenGithub name = true := by
  simp [markAll_eq, Context.hasSeenGithub]

/-- Whether the operator suppresses a name, or the one that it adds `-plugin` to. -/
def isSuppressed (tables : Overrides.Tables) (name : String) : Bool :=
  (Context.withPluginNamesSkipped tables.repositories).text? name == some skipMark

/-- The directories that no released plugin covers, within the limit and not suppressed. -/
def uncoveredDirectories (tables : Overrides.Tables) (limit : Option String)
    (plugins : List Plugin) (directories : List String) : List String :=
  directories.filter fun name => limit.all (Text.startsWith name ·) &&
    !isSuppressed tables name && !(plugins.map Plugin.coveredDirectory).contains name

/-- The repositories that neither a released plugin nor one of the directories covers, within the
limit and not suppressed. -/
def uncoveredRepositories (tables : Overrides.Tables) (limit : Option String)
    (plugins : List Plugin) (directories repositories : List String) : List String :=
  repositories.filter fun name => limit.all (Text.startsWith name ·) &&
    !isSuppressed tables name &&
    !(plugins.map Plugin.coveredRepository ++ directories.map (· ++ "-plugin")).contains name

theorem flatMap_coveredDirectories_releasedItems (s : Survey) :
    (releasedItems s).flatMap Item.coveredDirectories
      = (s.collected.map Prod.fst).map Plugin.coveredDirectory := by
  simp [releasedItems, List.flatMap_map, Item.coveredDirectories, ← List.map_eq_flatMap,
    Function.comp_def]

theorem flatMap_coveredRepositories_releasedItems (s : Survey) :
    (releasedItems s).flatMap Item.coveredRepositories
      = (s.collected.map Prod.fst).map Plugin.coveredRepository := by
  simp [releasedItems, List.flatMap_map, Item.coveredRepositories, ← List.map_eq_flatMap,
    Function.comp_def]

variable (tables : Overrides.Tables) (limit : Option String) (s : Survey)

/-- What the operator says holds to the end of a run. -/
theorem isSkipped_markAll_afterReleased (items : List Item) (name : String) :
    (markAll (afterReleased (startContext tables limit) s) items).isSkipped name
      = isSuppressed tables name := by
  rw [markAll_eq, afterReleased, markAll_eq]
  rfl

theorem admits_markAll_afterReleased (items : List Item) (name : String) :
    (markAll (afterReleased (startContext tables limit) s) items).admits name
      = limit.all (Text.startsWith name ·) := by
  rw [markAll_eq, afterReleased, markAll_eq, ← admits_start tables limit name]
  rfl

theorem directoryItems_start :
    directoryItems (startContext tables limit) s = (uncoveredDirectories tables limit
      (s.collected.map Prod.fst) s.directories).map .directory := by
  let c := startContext tables limit
  have hseen : ∀ name, (afterReleased c s).hasSeenSvn name
      = ((s.collected.map Prod.fst).map Plugin.coveredDirectory).contains name := by
    intro name
    have h := hasSeenSvn_markAll c (releasedItems s) name
    rw [flatMap_coveredDirectories_releasedItems] at h
    rw [Bool.eq_iff_iff, List.contains_iff_mem]
    exact h.trans (or_iff_left Bool.false_ne_true)
  refine congrArg (List.map Item.directory) (List.filter_congr fun name _ => ?_)
  rw [Context.wantsDirectory, hseen]
  exact congrArg₂ (fun a b => a && !b && _) (admits_markAll_afterReleased tables limit s [] name)
    (isSkipped_markAll_afterReleased tables limit s [] name)

theorem repositoryItems_start :
    repositoryItems (startContext tables limit) s = (uncoveredRepositories tables limit
      (s.collected.map Prod.fst)
      (uncoveredDirectories tables limit (s.collected.map Prod.fst) s.directories)
      s.repositories).map .repository := by
  let c := startContext tables limit
  let directories := uncoveredDirectories tables limit (s.collected.map Prod.fst) s.directories
  have hdirectories : (directoryItems c s).flatMap Item.coveredRepositories
      = directories.map (· ++ "-plugin") := by
    rw [directoryItems_start, List.flatMap_map]
    exact List.map_eq_flatMap.symm
  have hseen : ∀ name, (markAll (afterReleased c s) (directoryItems c s)).hasSeenGithub name
      = ((s.collected.map Prod.fst).map Plugin.coveredRepository
          ++ directories.map (· ++ "-plugin")).contains name := by
    intro name
    have hreleased := hasSeenGithub_markAll c (releasedItems s) name
    have h := hasSeenGithub_markAll (afterReleased c s) (directoryItems c s) name
    rw [flatMap_coveredRepositories_releasedItems] at hreleased
    rw [hdirectories] at h
    rw [Bool.eq_iff_iff, List.contains_iff_mem, List.mem_append, h, or_comm]
    exact or_congr_left (hreleased.trans (or_iff_left Bool.false_ne_true))
  refine congrArg (List.map Item.repository) (List.filter_congr fun name _ => ?_)
  rw [Context.wantsRepository, hseen, admits_markAll_afterReleased,
    isSkipped_markAll_afterReleased]

/-- The plugins that are surveyed are those that were asked for, whatever the answers. -/
theorem map_fst_collected (run : Run) (world : World) (past : List Question)
    (plugins : List Plugin) :
    ((plugins.mapM run.collectedFor).runFrom world past).1.map Prod.fst = plugins := by
  induction plugins generalizing past with
  | nil => rfl
  | cons plugin plugins ih =>
    simp only [List.mapM_cons, collectedFor, Session.runFrom_bind, Session.runFrom_pure,
      List.map_cons]
    exact congrArg (plugin :: ·) (ih _)

/-- The items of a run are the plugins surveyed and what of the listings they leave uncovered. -/
theorem items_start :
    let plugins := s.collected.map Prod.fst
    let directories := uncoveredDirectories tables limit plugins s.directories
    let repositories := uncoveredRepositories tables limit plugins directories s.repositories
    items (startContext tables limit) s = releasedItems s ++ directories.map .directory
      ++ repositories.map .repository := by
  intro plugins directories repositories
  rw [items, directoryItems_start, repositoryItems_start]

/-- What a run finds outside once the feed is there: it asks for the svn tags, and then surveys the
plugins. -/
theorem runIn_explore (today : Calendar.Date) {settings : Settings} {world : World}
    {body : String} {past : List Question} {feed : List (String × FeedEntry)}
    (hbody : (Session.fetch settings.feed.url).runIn world = (some body, past))
    (hfeed : Feed.read? body = some feed) :
    let connected := (Svn.Backend.connect settings.svn).runFrom world past
    let run : Run :=
      ⟨settings, today, .ofSettings settings.github tables.tagRules, connected.1⟩
    let surveyed := (run.survey (pluginsOf (startContext tables limit) feed)).runFrom world
      connected.2
    (explore settings tables limit today).runIn world
      = (orOutOfPages (surveyed.1.map (run, ·)), surveyed.2) := by
  intro connected run surveyed
  rw [Session.runIn] at hbody
  rw [explore, Session.runIn, Session.runFrom_bind, hbody]
  simp only [hfeed, Session.runFrom_bind, Session.runFrom_pure]
  rfl

theorem orOutOfPages_eq_ok_iff {α : Type} {a : Option α} {b : α} :
    orOutOfPages a = .ok b ↔ a = some b := by
  cases a <;> simp [orOutOfPages]

/-- Whatever a run finds, it finds with the feed that is there. -/
theorem exists_feed_of_runIn_explore {tables : Overrides.Tables} {limit : Option String}
    {settings : Settings} {today : Calendar.Date} {world : World} {run : Run} {s : Survey}
    {log : List Question}
    (h : (explore settings tables limit today).runIn world = (.ok (run, s), log)) :
    ∃ body feed past,
      (Session.fetch settings.feed.url).runIn world = (some body, past) ∧
      Feed.read? body = some feed ∧
      let connected := (Svn.Backend.connect settings.svn).runFrom world past
      run = ⟨settings, today, .ofSettings settings.github tables.tagRules, connected.1⟩ ∧
      (run.survey (pluginsOf (startContext tables limit) feed)).runFrom world connected.2
        = (some s, log) := by
  rcases hfetch : (Session.fetch settings.feed.url).runIn world with ⟨_ | body, past⟩
  · rw [Session.runIn] at hfetch
    rw [explore, Session.runIn, Session.runFrom_bind, hfetch] at h
    cases h
  · cases hfeed : Feed.read? body with
    | none =>
      rw [Session.runIn] at hfetch
      rw [explore, Session.runIn, Session.runFrom_bind, hfetch] at h
      simp only [hfeed] at h
      cases h
    | some feed =>
      rw [runIn_explore tables limit today hfetch hfeed] at h
      obtain ⟨hfound, hlog⟩ := Prod.mk.inj h
      obtain ⟨_, hs, heq⟩ := Option.map_eq_some_iff.1 (orOutOfPages_eq_ok_iff.1 hfound)
      cases heq
      exact ⟨body, feed, past, rfl, hfeed, rfl, Prod.ext hs hlog⟩

/-- The report is made of what was found. -/
theorem runIn_execute {settings : Settings} {today : Calendar.Date} {world : World} {run : Run}
    {s : Survey} {log : List Question}
    (h : (explore settings tables limit today).runIn world = (.ok (run, s), log)) :
    (execute settings tables limit today).runIn world
      = (.ok (run.reportOf (startContext tables limit) s), log) := by
  rw [Session.runIn] at h
  rw [execute_eq, Session.runIn, Session.runFrom_bind, h, Session.runFrom_pure]
  rfl

/-- A run makes its report of what the survey of the plugins in the feed finds. -/
theorem runIn_execute_of_feed (today : Calendar.Date) {settings : Settings} {world : World}
    {body : String} {past : List Question} {feed : List (String × FeedEntry)}
    (hbody : (Session.fetch settings.feed.url).runIn world = (some body, past))
    (hfeed : Feed.read? body = some feed) :
    let connected := (Svn.Backend.connect settings.svn).runFrom world past
    let run : Run :=
      ⟨settings, today, .ofSettings settings.github tables.tagRules, connected.1⟩
    let c := startContext tables limit
    let surveyed := (run.survey (pluginsOf c feed)).runFrom world connected.2
    (execute settings tables limit today).runIn world
      = (orOutOfPages (surveyed.1.map (run.reportOf c)), surveyed.2) := by
  intro connected run c surveyed
  have hfound := runIn_explore tables limit today hbody hfeed
  rw [Session.runIn] at hfound
  rw [execute_eq, Session.runIn, Session.runFrom_bind, hfound, Session.runFrom_pure,
    map_orOutOfPages, Option.map_map]
  rfl

/-- A survey is a visit and the listing behind it. -/
theorem runFrom_survey (run : Run) (plugins : List Plugin) (world : World)
    (past : List Question) :
    (run.survey plugins).runFrom world past =
      let visited := (run.visit plugins).runFrom world past
      let listed := (run.repositoriesFrom lastPage 1).runFrom world visited.2
      (listed.1.map (Survey.mk visited.1.1 visited.1.2), listed.2) := by
  rw [survey, Session.runFrom_bind, Session.runFrom_bind, Session.runFrom_pure]

/-- What a survey finds is what the visit and the listing find. -/
theorem of_runFrom_survey {run : Run} {plugins : List Plugin} {world : World}
    {past log : List Question} {s : Survey}
    (h : (run.survey plugins).runFrom world past = (some s, log)) :
    let visited := (run.visit plugins).runFrom world past
    (s.collected, s.directories) = visited.1 ∧
      (run.repositoriesFrom lastPage 1).runFrom world visited.2 = (some s.repositories, log) := by
  intro visited
  rw [runFrom_survey] at h
  obtain ⟨hs, hlog⟩ := Prod.mk.inj h
  obtain ⟨repositories, hrepositories, rfl⟩ := Option.map_eq_some_iff.1 hs
  exact ⟨rfl, Prod.ext hrepositories hlog⟩

/-- A feed with a plugin in svn and one on the git host. -/
def mixedFeed : String :=
  "\x7b\"plugins\":\x7b\"a\":\x7b\"version\":\"1\"\x7d,"
    ++ "\"b\":\x7b\"version\":\"2\",\"scm\":\"github.com\"\x7d\x7d\x7d"

/-- A world in which no tags can be had.  A directory is new next to one that is covered, and a
repository next to one that a plugin covers and one that the new directory covers. -/
def troubledWorld : World := Snapshot.world {
  replies := [
    ("feed", [.answered 200 (Text.Utf8.encode mixedFeed)]),
    ("api/repos/jenkinsci/b-plugin/tags", [.answered 500 [], .unreachable]),
    ("api/orgs/jenkinsci/repos?page=1&per_page=100", [.answered 200 (Text.Utf8.encode
      ("[\x7b\"name\":\"b-plugin\"\x7d,\x7b\"name\":\"c-plugin\"\x7d,"
        ++ "\x7b\"name\":\"x\"\x7d]"))])]
  outcomes := [("--non-interactive ls https://svn.jenkins-ci.org/trunk/hudson/plugins",
    .exited 0 (Text.Utf8.encode "a/\nc/\n") [])] }

end Run
end ReleaseGap
