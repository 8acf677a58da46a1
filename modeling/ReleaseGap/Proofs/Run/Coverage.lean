import ReleaseGap.Proofs.Run.Rows

/-!
# What keeps a row out of a report

A listed directory or repository has a row exactly if it lies within the limit, is not suppressed
and is covered by no item of the run.  A plugin covers its homes in svn and on the git host, and a
directory the repository that it would move to, so that no project has a row for each of its homes.
A repository is covered by the name that the operator wrote.  Written with its owner, it is not the
name by which the organization lists it.
-/
namespace ReleaseGap

/-- A repository of the organization is written as its name, or with the organization before it. -/
theorem Github.Backend.qualified_eq_iff (b : Backend) (repository name : String) :
    b.qualified repository = s!"{b.organization}/{name}" ↔
      repository = if '/' ∈ repository.toList then s!"{b.organization}/{name}" else name := by
  by_cases howner : '/' ∈ repository.toList
  · simp [qualified, howner]
  · simp [qualified, howner, toString]

/-- A name with its owner before it is another name. -/
theorem ne_owner_append (owner name : String) : s!"{owner}/{name}" ≠ name := by
  intro h
  have hlength := congrArg (fun n : String => n.toList.length) h
  simp [toString] at hlength
  omega

namespace Run

variable {settings : Settings} {tables : Overrides.Tables} {limit : Option String}
  {today : Calendar.Date} {world : World} {report : Report} {log : List Question} {s : Survey}
  {name : String}

theorem rows_reportOf_perm (run : Run) (c : Context) (s : Survey) :
    (run.reportOf c s).rows.Perm (rowsFrom run c.tables.knownRevisions (items c s)) := by
  refine (Report.rows_sort_perm _).trans ?_
  change (run.assemble c s).report.rows.Perm _
  rw [rows_assemble]

/-- The rows of a report are those of the items of its run. -/
theorem exists_survey_of_execute
    (h : (execute settings tables limit today).runIn world = (.ok report, log)) :
    ∃ run s, (explore settings tables limit today).runIn world = (.ok (run, s), log) ∧
      report.rows.Perm
        (rowsFrom run tables.knownRevisions (items (startContext tables limit) s)) := by
  rw [execute_eq, Session.runIn, Session.runFrom_bind, Session.runFrom_pure] at h
  rcases hfound : (explore settings tables limit today).runFrom world [] with ⟨found, asked⟩
  rw [hfound] at h
  obtain ⟨hreport, rfl⟩ := Prod.mk.inj h
  cases found with
  | error e => cases hreport
  | ok f =>
    obtain ⟨run, s⟩ := f
    obtain rfl : run.reportOf (startContext tables limit) s = report := Except.ok.inj hreport
    exact ⟨run, s, hfound, run.rows_reportOf_perm _ s⟩

theorem exists_mem_rowsFrom (run : Run) (known : Overrides.Table) {item : Item}
    {listed : List Item} (h : item ∈ listed) :
    ∃ row ∈ rowsFrom run known listed, item.Shows run row := by
  induction listed generalizing known with
  | nil => cases h
  | cons first listed ih =>
    rcases List.mem_cons.1 h with rfl | h
    · exact ⟨_, List.mem_cons_self, item.shows_row run known⟩
    · obtain ⟨row, hrow, hshows⟩ := ih (known.erase first.key) h
      exact ⟨row, List.mem_cons_of_mem _ hrow, hshows⟩

/-- The directories that have a row. -/
def directoriesOf (tables : Overrides.Tables) (limit : Option String) (s : Survey) : List String :=
  uncoveredDirectories tables limit (s.collected.map Prod.fst) s.directories

/-- The repositories that have a row and were never released. -/
def repositoriesOf (tables : Overrides.Tables) (limit : Option String) (s : Survey) : List String :=
  uncoveredRepositories tables limit (s.collected.map Prod.fst) (directoriesOf tables limit s)
    s.repositories

theorem items_eq (tables : Overrides.Tables) (limit : Option String) (s : Survey) :
    items (startContext tables limit) s = releasedItems s
      ++ (directoriesOf tables limit s).map .directory
      ++ (repositoriesOf tables limit s).map .repository := items_start tables limit s

@[simp] theorem flatMap_coveredDirectories_directories (names : List String) :
    (names.map Item.directory).flatMap Item.coveredDirectories = [] := by
  simp [List.flatMap_map, Item.coveredDirectories]

@[simp] theorem flatMap_coveredDirectories_repositories (names : List String) :
    (names.map Item.repository).flatMap Item.coveredDirectories = [] := by
  simp [List.flatMap_map, Item.coveredDirectories]

@[simp] theorem flatMap_coveredRepositories_directories (names : List String) :
    (names.map Item.directory).flatMap Item.coveredRepositories = names.map (· ++ "-plugin") := by
  simp [List.flatMap_map, Item.coveredRepositories, ← List.map_eq_flatMap]

@[simp] theorem flatMap_coveredRepositories_repositories (names : List String) :
    (names.map Item.repository).flatMap Item.coveredRepositories = [] := by
  simp [List.flatMap_map, Item.coveredRepositories]

/-- The directories that a run covers are those of its plugins. -/
theorem coveredDirectories_items :
    (items (startContext tables limit) s).flatMap Item.coveredDirectories
      = (s.collected.map Prod.fst).map Plugin.coveredDirectory := by
  rw [items_eq, List.flatMap_append, List.flatMap_append,
    flatMap_coveredDirectories_releasedItems, flatMap_coveredDirectories_directories,
    flatMap_coveredDirectories_repositories, List.append_nil, List.append_nil]

/-- The repositories that a run covers are those of its plugins, and those that its directories
would move to. -/
theorem coveredRepositories_items :
    (items (startContext tables limit) s).flatMap Item.coveredRepositories
      = (s.collected.map Prod.fst).map Plugin.coveredRepository
        ++ (directoriesOf tables limit s).map (· ++ "-plugin") := by
  rw [items_eq, List.flatMap_append, List.flatMap_append,
    flatMap_coveredRepositories_releasedItems, flatMap_coveredRepositories_directories,
    flatMap_coveredRepositories_repositories, List.append_nil]

theorem released_mem_items {plugin : Plugin} {collected : Collected} :
    .released plugin collected ∈ items (startContext tables limit) s ↔
      (plugin, collected) ∈ s.collected := by
  rw [items_eq]
  simp [releasedItems]

theorem exists_released_mem_items {plugin : Plugin} (h : plugin ∈ s.collected.map Prod.fst) :
    ∃ collected, .released plugin collected ∈ items (startContext tables limit) s := by
  obtain ⟨⟨_, collected⟩, hmem, rfl⟩ := List.mem_map.1 h
  exact ⟨collected, released_mem_items.2 hmem⟩

/-- A listed directory has a row unless the limit, the operator or an item of the run keeps it out.
-/
theorem directory_mem_items :
    .directory name ∈ items (startContext tables limit) s ↔
      name ∈ s.directories ∧ limit.all (Text.startsWith name ·) = true ∧
        isSuppressed tables name = false ∧
        name ∉ (items (startContext tables limit) s).flatMap Item.coveredDirectories := by
  rw [coveredDirectories_items, items_eq]
  simp [releasedItems, directoriesOf, uncoveredDirectories, and_assoc]

/-- A listed repository has a row unless the limit, the operator or an item of the run keeps it out.
-/
theorem repository_mem_items :
    .repository name ∈ items (startContext tables limit) s ↔
      name ∈ s.repositories ∧ limit.all (Text.startsWith name ·) = true ∧
        isSuppressed tables name = false ∧
        name ∉ (items (startContext tables limit) s).flatMap Item.coveredRepositories := by
  rw [coveredRepositories_items, items_eq]
  simp [releasedItems, repositoriesOf, uncoveredRepositories, and_assoc]

theorem directory_notMem_items {item : Item} (hitem : item ∈ items (startContext tables limit) s)
    (hname : name ∈ item.coveredDirectories) :
    .directory name ∉ items (startContext tables limit) s := fun h =>
  (directory_mem_items.1 h).2.2.2 (List.mem_flatMap.2 ⟨item, hitem, hname⟩)

theorem repository_notMem_items {item : Item} (hitem : item ∈ items (startContext tables limit) s)
    (hname : name ∈ item.coveredRepositories) :
    .repository name ∉ items (startContext tables limit) s := fun h =>
  (repository_mem_items.1 h).2.2.2 (List.mem_flatMap.2 ⟨item, hitem, hname⟩)

/-- No project has rows for two of its homes: what a row stands for keeps the others out. -/
theorem execute_excludes_covered
    (h : (execute settings tables limit today).runIn world = (.ok report, log)) :
    ∃ run s, (explore settings tables limit today).runIn world = (.ok (run, s), log) ∧
      let listed := items (startContext tables limit) s
      report.rows.Perm (rowsFrom run tables.knownRevisions listed) ∧
      (∀ plugin collected, .released plugin collected ∈ listed → plugin.kind = .hostedGit →
        .directory plugin.id ∉ listed ∧ .repository plugin.repository ∉ listed) ∧
      (∀ plugin collected, .released plugin collected ∈ listed → plugin.kind = .legacySvn →
        .directory plugin.repository ∉ listed ∧
          .repository (plugin.repository ++ "-plugin") ∉ listed) ∧
      ∀ name, .directory name ∈ listed → .repository (name ++ "-plugin") ∉ listed := by
  obtain ⟨run, s, hfound, hrows⟩ := exists_survey_of_execute h
  refine ⟨run, s, hfound, hrows, ?git, ?svn, ?directory⟩
  case git =>
    intro plugin collected hplugin hkind
    refine ⟨directory_notMem_items hplugin ?_, repository_notMem_items hplugin ?_⟩
    · simp [Item.coveredDirectories, Plugin.coveredDirectory, hkind]
    · simp [Item.coveredRepositories, Plugin.coveredRepository, hkind]
  case svn =>
    intro plugin collected hplugin hkind
    refine ⟨directory_notMem_items hplugin ?_, repository_notMem_items hplugin ?_⟩
    · simp [Item.coveredDirectories, Plugin.coveredDirectory, hkind]
    · simp [Item.coveredRepositories, Plugin.coveredRepository, hkind]
  case directory =>
    intro name hname
    exact repository_notMem_items hname List.mem_cons_self

/-- The plugins of a survey and its listings. -/
def Survey.names (s : Survey) : List Plugin × List String × List String :=
  (s.collected.map Prod.fst, s.directories, s.repositories)

/-- A view of a result tells that there is one. -/
theorem exists_ok_of_view {α β : Type} {found : Except NoReport α × List Question} {view : α → β}
    {b : β} (h : found.1.toOption.map view = some b) :
    ∃ a log, found = (.ok a, log) ∧ view a = b := by
  obtain ⟨result, log⟩ := found
  cases result with
  | error e => cases h
  | ok a => exact ⟨a, log, rfl, Option.some.inj h⟩

theorem found_unique {p : Except NoReport (Run × Survey) × List Question} {run run' : Run}
    {s s' : Survey} {log log' : List Question} (h : p = (.ok (run, s), log))
    (h' : p = (.ok (run', s'), log')) : run = run' ∧ s = s' :=
  Prod.mk.inj (Except.ok.inj (congrArg Prod.fst (h.symm.trans h')))

/-- Fetches the feed and asks the git host at short addresses. -/
def nearSettings : Settings := { feed := { url := "feed" }, github := { apiUrl := "api" } }

/-- A plugin in svn, one on the git host and a new directory.  Both listings name what they cover.
-/
theorem execute_excludes_covered_sample :
    ∃ report log run s,
      (execute nearSettings {} none ⟨2011, 3, 3, by decide⟩).runIn troubledWorld
        = (.ok report, log) ∧
      (explore nearSettings {} none ⟨2011, 3, 3, by decide⟩).runIn troubledWorld
        = (.ok (run, s), log) ∧
      s.directories = ["a", "c"] ∧ s.repositories = ["b-plugin", "c-plugin", "x"] ∧
      let listed := items (startContext {} none) s
      .directory "c" ∈ listed ∧ .repository "x" ∈ listed ∧
      .directory "a" ∉ listed ∧ .repository "a-plugin" ∉ listed ∧
      .directory "b" ∉ listed ∧ .repository "b-plugin" ∉ listed ∧
      .repository "c-plugin" ∉ listed := by
  let a : Plugin :=
    { id := "a", version := "1", wiki := none, releaseTimestamp := none, kind := .legacySvn
      repository := "a" }
  let b : Plugin :=
    { id := "b", version := "2", wiki := none, releaseTimestamp := none, kind := .hostedGit
      repository := "b-plugin" }
  have hview : ((explore nearSettings {} none ⟨2011, 3, 3, by decide⟩).runIn
      troubledWorld).1.toOption.map (fun f => f.2.names)
        = some ([a, b], ["a", "c"], ["b-plugin", "c-plugin", "x"]) := by decide +kernel
  obtain ⟨⟨run, s⟩, log, hexplore, hnames⟩ := exists_ok_of_view hview
  have hexecute := runIn_execute {} none hexplore
  obtain ⟨_, _, hfound, -, hgit, hsvn, hdirectory⟩ := execute_excludes_covered hexecute
  obtain ⟨rfl, rfl⟩ := found_unique hexplore hfound
  simp only [Survey.names, Prod.mk.injEq] at hnames
  obtain ⟨hplugins, hdirectories, hrepositories⟩ := hnames
  obtain ⟨ofA, ha⟩ : ∃ collected, .released a collected ∈ items (startContext {} none) s :=
    exists_released_mem_items (hplugins ▸ by decide)
  obtain ⟨ofB, hb⟩ : ∃ collected, .released b collected ∈ items (startContext {} none) s :=
    exists_released_mem_items (hplugins ▸ by decide)
  have hc : .directory "c" ∈ items (startContext {} none) s := by
    rw [directory_mem_items, coveredDirectories_items, hplugins, hdirectories]
    decide +kernel
  have hx : .repository "x" ∈ items (startContext {} none) s := by
    rw [repository_mem_items, coveredRepositories_items, directoriesOf, hplugins, hdirectories,
      hrepositories]
    decide +kernel
  exact ⟨_, log, run, s, hexecute, hexplore, hdirectories, hrepositories, hc, hx,
    (hsvn a ofA ha rfl).1, (hsvn a ofA ha rfl).2, (hgit b ofB hb rfl).1, (hgit b ofB hb rfl).2,
    hdirectory "c" hc⟩

/-- Of the names of the repository that it lives in, a plugin on the git host covers the one that
the operator wrote. -/
theorem mem_coveredRepositories_iff_of_qualified {github : Github.Backend} {plugin : Plugin}
    {collected : Collected} (hkind : plugin.kind = .hostedGit)
    (hqualified : github.qualified plugin.repository = s!"{github.organization}/{name}") :
    name ∈ (Item.released plugin collected).coveredRepositories ↔
      '/' ∉ plugin.repository.toList := by
  have hwritten : name ∈ (Item.released plugin collected).coveredRepositories ↔
      name = plugin.repository := by
    simp [Item.coveredRepositories, Plugin.coveredRepository, hkind]
  rw [Github.Backend.qualified_eq_iff] at hqualified
  rw [hwritten]
  by_cases howner : '/' ∈ plugin.repository.toList
  · rw [if_pos howner] at hqualified
    exact iff_of_false (fun heq => ne_owner_append _ name (hqualified.symm.trans heq.symm))
      (not_not_intro howner)
  · rw [if_neg howner] at hqualified
    exact iff_of_true hqualified.symm howner

/-- A plugin keeps the repository it lives in out of the report if the operator wrote it without an
owner.  Written with the organization as its owner it covers that spelling only, and the repository
has a row like any that is listed. -/
theorem execute_covers_repository_as_written
    (h : (execute settings tables limit today).runIn world = (.ok report, log)) :
    ∃ run s, (explore settings tables limit today).runIn world = (.ok (run, s), log) ∧
      let listed := items (startContext tables limit) s
      let github := Github.Backend.ofSettings settings.github tables.tagRules
      report.rows.Perm (rowsFrom run tables.knownRevisions listed) ∧
      (∀ name, .repository name ∈ listed ↔
        name ∈ s.repositories ∧ limit.all (Text.startsWith name ·) = true ∧
          isSuppressed tables name = false ∧
          name ∉ listed.flatMap Item.coveredRepositories) ∧
      ∀ plugin collected name, .released plugin collected ∈ listed → plugin.kind = .hostedGit →
        github.qualified plugin.repository = s!"{settings.github.organization}/{name}" →
        (name ∈ (Item.released plugin collected).coveredRepositories ↔
          '/' ∉ plugin.repository.toList) ∧
        ('/' ∉ plugin.repository.toList → .repository name ∉ listed) := by
  obtain ⟨run, s, hfound, hrows⟩ := exists_survey_of_execute h
  refine ⟨run, s, hfound, hrows, fun _ => repository_mem_items, ?_⟩
  intro plugin collected name hplugin hkind hqualified
  have hcovers : name ∈ (Item.released plugin collected).coveredRepositories ↔
      '/' ∉ plugin.repository.toList :=
    mem_coveredRepositories_iff_of_qualified hkind hqualified
  exact ⟨hcovers, fun hbare => repository_notMem_items hplugin (hcovers.2 hbare)⟩

/-- A feed with two plugins on the git host, and an organization with a repository for each. -/
def twoReposWorld : World := Snapshot.world {
  replies := [
    ("feed", [.answered 200 (Text.Utf8.encode
      ("\x7b\"plugins\":\x7b\"a\":\x7b\"version\":\"1\",\"scm\":\"github.com\"\x7d,"
        ++ "\"c\":\x7b\"version\":\"1\",\"scm\":\"github.com\"\x7d\x7d\x7d"))]),
    ("api/orgs/jenkinsci/repos?page=1&per_page=100", [.answered 200 (Text.Utf8.encode
      "[\x7b\"name\":\"b\"\x7d,\x7b\"name\":\"d\"\x7d]")])] }

/-- The operator writes the repository of one plugin with its owner. -/
def twoSpellings : Overrides.Tables := { repositories := .ofText "a|b\nc|jenkinsci/d" }

def barePlugin : Plugin :=
  { id := "a", version := "1", wiki := none, releaseTimestamp := none, kind := .hostedGit
    repository := "b" }

def ownedPlugin : Plugin :=
  { id := "c", version := "1", wiki := none, releaseTimestamp := none, kind := .hostedGit
    repository := "jenkinsci/d" }

theorem exists_explore_twoReposWorld :
    ∃ run s log, (explore nearSettings twoSpellings none ⟨2011, 3, 3, by decide⟩).runIn
        twoReposWorld = (.ok (run, s), log) ∧
      s.names = ([barePlugin, ownedPlugin], [], ["b", "d"]) := by
  have hview : ((explore nearSettings twoSpellings none ⟨2011, 3, 3, by decide⟩).runIn
      twoReposWorld).1.toOption.map (fun f => f.2.names)
        = some ([barePlugin, ownedPlugin], [], ["b", "d"]) := by decide +kernel
  obtain ⟨⟨run, s⟩, log, hexplore, hnames⟩ := exists_ok_of_view hview
  exact ⟨run, s, log, hexplore, hnames⟩

/-- Of the two repositories the one written without its owner has no row. -/
theorem execute_covers_repository_as_written_sample :
    ∃ report log run s,
      (execute nearSettings twoSpellings none ⟨2011, 3, 3, by decide⟩).runIn twoReposWorld
        = (.ok report, log) ∧
      (explore nearSettings twoSpellings none ⟨2011, 3, 3, by decide⟩).runIn twoReposWorld
        = (.ok (run, s), log) ∧
      s.repositories = ["b", "d"] ∧
      let listed := items (startContext twoSpellings none) s
      .repository "b" ∉ listed ∧ .repository "d" ∈ listed := by
  obtain ⟨run, s, log, hexplore, hnames⟩ := exists_explore_twoReposWorld
  have hexecute := runIn_execute twoSpellings none hexplore
  obtain ⟨_, _, hfound, -, hlisted, hcovers⟩ := execute_covers_repository_as_written hexecute
  obtain ⟨rfl, rfl⟩ := found_unique hexplore hfound
  simp only [Survey.names, Prod.mk.injEq] at hnames
  obtain ⟨hplugins, hdirectories, hrepositories⟩ := hnames
  obtain ⟨collected, hbare⟩ : ∃ collected,
      .released barePlugin collected ∈ items (startContext twoSpellings none) s :=
    exists_released_mem_items (hplugins ▸ by decide)
  have hqualified : (Github.Backend.ofSettings nearSettings.github
      twoSpellings.tagRules).qualified barePlugin.repository
        = s!"{nearSettings.github.organization}/b" := by decide +kernel
  have hd : .repository "d" ∈ items (startContext twoSpellings none) s := by
    rw [hlisted, coveredRepositories_items, directoriesOf, hplugins, hdirectories, hrepositories]
    decide +kernel
  exact ⟨_, log, run, s, hexecute, hexplore, hrepositories,
    (hcovers barePlugin collected "b" hbare rfl hqualified).2 (by decide), hd⟩

/-- The repository of a released plugin has a row of its own if the operator wrote its owner. -/
theorem execute_repeats_owned_repository :
    ∃ report log run s collected label,
      (execute nearSettings twoSpellings none ⟨2011, 3, 3, by decide⟩).runIn twoReposWorld
        = (.ok report, log) ∧
      (explore nearSettings twoSpellings none ⟨2011, 3, 3, by decide⟩).runIn twoReposWorld
        = (.ok (run, s), log) ∧
      .released ownedPlugin collected ∈ items (startContext twoSpellings none) s ∧
      ownedPlugin.kind = .hostedGit ∧
      (Github.Backend.ofSettings nearSettings.github twoSpellings.tagRules).qualified
        ownedPlugin.repository = s!"{nearSettings.github.organization}/d" ∧
      .repository "d" ∈ items (startContext twoSpellings none) s ∧
      Report.Row.unreleased "d" (run.repositoryUrl "d") label ∈ report.rows := by
  obtain ⟨run, s, log, hexplore, hnames⟩ := exists_explore_twoReposWorld
  simp only [Survey.names, Prod.mk.injEq] at hnames
  obtain ⟨hplugins, hdirectories, hrepositories⟩ := hnames
  obtain ⟨collected, howned⟩ : ∃ collected,
      .released ownedPlugin collected ∈ items (startContext twoSpellings none) s :=
    exists_released_mem_items (hplugins ▸ by decide)
  have hd : .repository "d" ∈ items (startContext twoSpellings none) s := by
    rw [repository_mem_items, coveredRepositories_items, directoriesOf, hplugins, hdirectories,
      hrepositories]
    decide +kernel
  obtain ⟨_, hrow, label, rfl⟩ := exists_mem_rowsFrom run twoSpellings.knownRevisions hd
  exact ⟨_, log, run, s, collected, label, runIn_execute twoSpellings none hexplore, hexplore,
    howned, rfl, by decide +kernel, hd, (run.rows_reportOf_perm _ s).mem_iff.2 hrow⟩

end Run
end ReleaseGap
