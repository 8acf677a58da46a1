import ReleaseGap.Proofs.Run.Keys
import ReleaseGap.Proofs.Run.Requests
import ReleaseGap.Proofs.Run.Rows

/-!
# Isolation of repositories

Where every question always gets the same answer, what the git host answers about the repository of
one plugin shows in that plugin's row, and in no other.  Which entries are called unused depends on
it only for keys that begin with the id of the plugin.
-/
namespace ReleaseGap

/-- A feed has each id once. -/
theorem Feed.pairwise_ne_of_read? {body : String} {feed : List (String × FeedEntry)}
    (h : Feed.read? body = some feed) : feed.Pairwise fun a b => a.1 ≠ b.1 := by
  simp only [Feed.read?, Option.bind_eq_bind, Option.bind_eq_some_iff] at h
  obtain ⟨document, -, fields, -, h⟩ := h
  split at h
  · simp only [Option.bind_eq_some_iff] at h
    obtain ⟨members, -, entries, -, hentries⟩ := h
    cases hentries
    refine (List.pairwise_map.1 (Keyed.isOrdered_ofPairs entries)).imp ?_
    intro a b hlt heq
    rw [heq] at hlt
    exact String.lt_irrefl _ hlt
  · cases h

theorem Plugin.id_of_ofFeed? {id : String} {entry : FeedEntry} {tables : Overrides.Tables}
    {plugin : Plugin} (h : Plugin.ofFeed? id entry tables = some plugin) : plugin.id = id := by
  simp only [Plugin.ofFeed?] at h
  split at h
  · cases h
  · cases h
    rfl

namespace Run

theorem id_of_pluginOf? {c : Context} {e : String × FeedEntry} {plugin : Plugin}
    (h : pluginOf? c e = some plugin) : plugin.id = e.1 := by
  rw [pluginOf?] at h
  split at h
  · exact Plugin.id_of_ofFeed? h
  · cases h

/-- No two plugins of a run have one id. -/
theorem pairwise_id_pluginsOf {body : String} {feed : List (String × FeedEntry)}
    (h : Feed.read? body = some feed) (c : Context) :
    (pluginsOf c feed).Pairwise fun p q => p.id ≠ q.id :=
  (Feed.pairwise_ne_of_read? h).filterMap _ fun _ _ hne _ hp _ hq =>
    id_of_pluginOf? hp ▸ id_of_pluginOf? hq ▸ hne

/-- Of plugins with different ids one can be taken out. -/
theorem exists_split_of_mem {plugins : List Plugin} {p : Plugin}
    (hids : plugins.Pairwise fun p q => p.id ≠ q.id) (hp : p ∈ plugins) :
    ∃ before after, plugins = before ++ p :: after ∧ plugins.erase p = before ++ after ∧
      ∀ q ∈ before ++ after, q ∈ plugins ∧ q.id ≠ p.id := by
  obtain ⟨before, after, rfl⟩ := List.append_of_mem hp
  rw [List.pairwise_append, List.pairwise_cons] at hids
  obtain ⟨-, ⟨hafter, -⟩, hbefore⟩ := hids
  have hnotin : p ∉ before := fun hmem => hbefore p hmem p List.mem_cons_self rfl
  refine ⟨before, after, rfl, ?_, fun q hq => ?_⟩
  · rw [List.erase_append_right _ hnotin, List.erase_cons_head]
  · rcases List.mem_append.1 hq with hq | hq
    · exact ⟨List.mem_append_left _ hq, hbefore q hq p List.mem_cons_self⟩
    · exact ⟨List.mem_append_right _ (List.mem_cons_of_mem p hq), (hafter q hq).symm⟩

variable (run : Run) (reply reply' : Request → Reply) (outcome : Call → Outcome)

/-- What is collected for a plugin where every question always gets the same answer. -/
def collectedIn (plugin : Plugin) : Collected :=
  ((run.collectedFor plugin).result reply outcome).2

/-- The item of a plugin where every question always gets the same answer. -/
def releasedIn (plugin : Plugin) : Item := .released plugin (run.collectedIn reply outcome plugin)

theorem result_collectedFor (plugin : Plugin) :
    (run.collectedFor plugin).result reply outcome
      = (plugin, run.collectedIn reply outcome plugin) := by
  rw [collectedIn, collectedFor, Session.result_bind, Session.result_pure]

/-- The survey of plugins beside a listing, where every question always gets the same answer. -/
def surveyIn (plugins : List Plugin) (repositories : List String) : Survey where
  collected := plugins.map fun plugin => (plugin, run.collectedIn reply outcome plugin)
  directories := run.svn.trunkDirectories.result reply outcome
  repositories := repositories

theorem result_survey (plugins : List Plugin) :
    (run.survey plugins).result reply outcome
      = ((run.repositoriesFrom lastPage 1).result reply outcome).map
          (run.surveyIn reply outcome plugins) := by
  simp only [survey, visit, Session.result_bind, Session.result_pure, Session.result_mapM,
    result_collectedFor]
  rfl

theorem items_surveyIn (tables : Overrides.Tables) (limit : Option String) (plugins : List Plugin)
    (listed : List String) :
    let s := run.surveyIn reply outcome plugins listed
    let directories := uncoveredDirectories tables limit plugins s.directories
    let repositories := uncoveredRepositories tables limit plugins directories listed
    items (startContext tables limit) s = plugins.map (run.releasedIn reply outcome)
      ++ (directories.map .directory ++ repositories.map .repository) := by
  intro s directories repositories
  have hplugins : s.collected.map Prod.fst = plugins := by
    simp [s, surveyIn, Function.comp_def]
  have hreleased : releasedItems s = plugins.map (run.releasedIn reply outcome) := by
    simp only [s, releasedItems, surveyIn, List.map_map]
    rfl
  rw [items_start, hplugins, hreleased, List.append_assoc]
  rfl

variable {run reply reply'}

theorem text?_tagRules (hrules : run.github.tagRules = {}) (id : String) :
    run.github.tagRules.text? id = none := by
  rw [hrules]
  rfl

/-- What is collected for a plugin depends on the answers about its own repository. -/
theorem releasedIn_eq {plugin : Plugin} (hrules : run.github.tagRules = {})
    (h : ∀ url, run.IsHistoryUrlOf plugin url → reply (.get url) = reply' (.get url)) :
    run.releasedIn reply outcome plugin = run.releasedIn reply' outcome plugin := by
  have hcollected :=
    (run.fetchesOnly_collectedFor (text?_tagRules hrules plugin.id)).result_eq h outcome
  rw [releasedIn, releasedIn, collectedIn, collectedIn, hcollected]

/-- Where the answers differ about one repository only, so do the items. -/
theorem items_surveyIn_of_agree {before after : List Plugin} {p : Plugin} {repository : String}
    (hrules : run.github.tagRules = {})
    (hothers : ∀ q ∈ before ++ after, q.kind = .hostedGit →
      run.github.qualified q.repository ≠ repository)
    (hsame : ∀ url, ¬ run.github.IsHistoryUrl repository url →
      reply (.get url) = reply' (.get url))
    (tables : Overrides.Tables) (limit : Option String) (listed : List String) :
    let plugins := before ++ p :: after
    let s := run.surveyIn reply outcome plugins listed
    let directories := uncoveredDirectories tables limit plugins s.directories
    let repositories := uncoveredRepositories tables limit plugins directories listed
    items (startContext tables limit) (run.surveyIn reply' outcome plugins listed)
      = before.map (run.releasedIn reply outcome) ++ run.releasedIn reply' outcome p ::
        (after.map (run.releasedIn reply outcome)
          ++ (directories.map .directory ++ repositories.map .repository)) := by
  intro plugins s directories repositories
  have hitem : ∀ q ∈ before ++ after,
      run.releasedIn reply outcome q = run.releasedIn reply' outcome q := by
    intro q hq
    refine releasedIn_eq outcome hrules fun url ⟨hkind, hurl⟩ => hsame url fun hrepository => ?_
    exact hothers q hq hkind (run.github.repository_eq_of_isHistoryUrl hurl hrepository)
  have hbefore : before.map (run.releasedIn reply outcome)
      = before.map (run.releasedIn reply' outcome) :=
    List.map_congr_left fun q hq => hitem q (List.mem_append_left _ hq)
  have hafter : after.map (run.releasedIn reply outcome)
      = after.map (run.releasedIn reply' outcome) :=
    List.map_congr_left fun q hq => hitem q (List.mem_append_right _ hq)
  have hdirectories : s.directories
      = (run.surveyIn reply' outcome plugins listed).directories :=
    run.svn.fetchesOnly_trunkDirectories.result_eq (fun _ h => h.elim) outcome
  simp only [directories, repositories, hdirectories, hbefore, hafter]
  rw [items_surveyIn, List.map_append, List.map_cons, List.append_assoc, List.cons_append]

/-- What the listing gives does not depend on the answers about a repository. -/
theorem result_repositoriesFrom_of_agree {repository : String}
    (hsame : ∀ url, ¬ run.github.IsHistoryUrl repository url →
      reply (.get url) = reply' (.get url)) :
    (run.repositoriesFrom lastPage 1).result reply outcome
      = (run.repositoriesFrom lastPage 1).result reply' outcome := by
  refine (run.fetchesOnly_repositoriesFrom lastPage 1).result_eq ?_ outcome
  rintro url ⟨page, rfl⟩
  exact hsame _ (run.github.not_isHistoryUrl_pageUrl _ _ _)

/-- The entries within the limit whose keys no item looks up. -/
def unusedBy (c : Context) (items : List Item) : List (String × String) :=
  (c.tables.knownRevisions.entries.filter fun e =>
    c.admits e.1 && !(items.map Item.key).contains e.1).map fun e => (e.1, e.2.content)

/-- Whether the key of an entry begins with an id and a hyphen. -/
def hasKeyOf (id : String) (entry : String × String) : Bool := Text.startsWith entry.1 (id ++ "-")

/-- A plugin uses no entry whose key does not begin with its id. -/
theorem filter_unusedBy (c : Context) (before : List Item) (p : Plugin) (collected : Collected)
    (after : List Item) :
    (unusedBy c (before ++ .released p collected :: after)).filter (!hasKeyOf p.id ·)
      = (unusedBy c (before ++ after)).filter (!hasKeyOf p.id ·) := by
  rw [unusedBy, unusedBy, List.filter_map, List.filter_map, List.filter_filter,
    List.filter_filter]
  refine congrArg (List.map _) (List.filter_congr fun e _ => ?_)
  cases hstart : Text.startsWith e.1 (p.id ++ "-") with
  | true => simp [hasKeyOf, hstart]
  | false =>
    have hkey : e.1 ≠ (Item.released p collected).key := by
      intro heq
      rw [heq] at hstart
      exact Bool.false_ne_true (hstart.symm.trans (Classification.startsWith_key _ _ _))
    simp [hkey]

/-- A plugin with a key of its own adds its row to those of the other items. -/
theorem reportOf_of_items (run : Run) {c : Context} {s : Survey} {before after : List Item}
    {p : Plugin} {collected : Collected}
    (hitems : items c s = before ++ .released p collected :: after)
    (hkeys : ∀ other ∈ after, other.key ≠ (Item.released p collected).key) :
    ∃ row, Item.Shows run (.released p collected) row ∧
      (run.reportOf c s).rows.Perm
        (row :: rowsFrom run c.tables.knownRevisions (before ++ after)) ∧
      (run.reportOf c s).unused.filter (!hasKeyOf p.id ·)
        = (unusedBy c (before ++ after)).filter (!hasKeyOf p.id ·) := by
  refine ⟨(Item.released p collected).row run
    (c.tables.knownRevisions.eraseAll (before.map Item.key)), Item.shows_row run _ _, ?_, ?_⟩
  · refine (Report.rows_sort_perm _).trans ?_
    change (run.assemble c s).report.rows.Perm _
    rw [rows_assemble, hitems]
    exact rowsFrom_append_cons_perm run _ _ hkeys
  · change (run.assemble c s).context.unused.filter _ = _
    rw [unused_assemble, ← filter_unusedBy c before p collected after, ← hitems]
    rfl

variable {outcome} in
theorem hasPlainVersion_releasedIn (hrules : run.github.tagRules = {})
    (hindex : run.svn.index.HasPlainVersions) (plugin : Plugin) :
    (run.releasedIn reply outcome plugin).HasPlainVersion :=
  isPlainVersion_of_canResolve hindex (Plugin.not_admitsHyphens (text?_tagRules hrules plugin.id))
    ⟨_, Session.canGive_result _ _ _, rfl⟩

/-- Where the answers differ about one repository only, so do the reports. -/
theorem reportOf_surveyIn_of_agree {before after : List Plugin} {p : Plugin} {repository : String}
    (hrules : run.github.tagRules = {}) (hindex : run.svn.index.HasPlainVersions)
    (hids : ∀ q ∈ before ++ after, q.id ≠ p.id)
    (hothers : ∀ q ∈ before ++ after, q.kind = .hostedGit →
      run.github.qualified q.repository ≠ repository)
    (hsame : ∀ url, ¬ run.github.IsHistoryUrl repository url →
      reply (.get url) = reply' (.get url))
    (tables : Overrides.Tables) (limit : Option String) (listed : List String) :
    let plugins := before ++ p :: after
    let s := run.surveyIn reply outcome plugins listed
    let directories := uncoveredDirectories tables limit plugins s.directories
    let repositories := uncoveredRepositories tables limit plugins directories listed
    let others := (before ++ after).map (run.releasedIn reply outcome)
      ++ (directories.map .directory ++ repositories.map .repository)
    let c := startContext tables limit
    let report := run.reportOf c (run.surveyIn reply' outcome plugins listed)
    ∃ row, Item.Shows run (run.releasedIn reply' outcome p) row ∧
      report.rows.Perm (row :: rowsFrom run tables.knownRevisions others) ∧
      report.unused.filter (!hasKeyOf p.id ·) = (unusedBy c others).filter (!hasKeyOf p.id ·) := by
  intro plugins s directories repositories others c report
  have hitems :=
    items_surveyIn_of_agree outcome (p := p) hrules hothers hsame tables limit listed
  -- Only items behind the plugin meet a table that has lost its key.
  have hkeys : ∀ other ∈ after.map (run.releasedIn reply outcome)
      ++ (directories.map .directory ++ repositories.map .repository),
      other.key ≠ (run.releasedIn reply' outcome p).key := by
    intro other hother
    have hp : (run.releasedIn reply' outcome p).HasPlainVersion :=
      hasPlainVersion_releasedIn hrules hindex p
    simp only [List.mem_append, List.mem_map] at hother
    rcases hother with ⟨q, hq, rfl⟩ | ⟨name, -, rfl⟩ | ⟨name, -, rfl⟩
    · refine Item.key_ne_key_released hp (hasPlainVersion_releasedIn hrules hindex q) ?_
      rintro other collected heq
      cases heq
      exact hids q (List.mem_append_right _ hq)
    · exact Item.key_ne_key_released hp trivial (by simp)
    · exact Item.key_ne_key_released hp trivial (by simp)
  have hreport := reportOf_of_items run hitems hkeys
  rwa [← List.append_assoc, ← List.map_append] at hreport

/-- A run whose feed is there reports on what it finds where every question always gets the same
answer. -/
theorem execute_constant {settings : Settings} {body : String}
    {feed : List (String × FeedEntry)} (hbody : (reply (.get settings.feed.url)).text? = some body)
    (hfeed : Feed.read? body = some feed) (tables : Overrides.Tables) (limit : Option String)
    (today : Calendar.Date) :
    let run : Run := ⟨settings, today, .ofSettings settings.github tables.tagRules,
      (Svn.Backend.connect settings.svn).result reply outcome⟩
    let c := startContext tables limit
    let surveyed := (run.survey (pluginsOf c feed)).result reply outcome
    ∃ log, (execute settings tables limit today).runIn (.constant reply outcome)
      = (orOutOfPages (surveyed.map (run.reportOf c)), log) := by
  intro run c surveyed
  have hfetched : (Session.fetch settings.feed.url).runIn (.constant reply outcome)
      = (some body, [.request (.get settings.feed.url)]) := by
    rw [← hbody]
    rfl
  have hexecute := runIn_execute_of_feed tables limit today hfetched hfeed
  simp only [Session.fst_runFrom_constant] at hexecute
  exact ⟨_, hexecute⟩

/-- Of a run without tag rules no other row depends on what is answered about one plugin's
repository, nor does it whether there is a report.  Which entries are unused depends on it only
where keys begin with the plugin's id. -/
theorem execute_isolates_repository {settings : Settings} {tables : Overrides.Tables}
    {body : String} {feed : List (String × FeedEntry)} {p : Plugin} (limit : Option String)
    (today : Calendar.Date) (hrules : tables.tagRules = {})
    (hbody : (reply (.get settings.feed.url)).text? = some body)
    (hfeed : Feed.read? body = some feed) :
    let github := Github.Backend.ofSettings settings.github tables.tagRules
    let plugins := pluginsOf (startContext tables limit) feed
    let repository := github.qualified p.repository
    p ∈ plugins → p.kind = .hostedGit →
    (∀ q ∈ plugins, q.kind = .hostedGit → github.qualified q.repository = repository → q = p) →
    ¬ github.IsHistoryUrl repository settings.feed.url →
    (∀ url, ¬ github.IsHistoryUrl repository url → reply (.get url) = reply' (.get url)) →
    let run : Run := ⟨settings, today, github,
      (Svn.Backend.connect settings.svn).result reply outcome⟩
    let surveyed := (run.survey plugins).result reply outcome
    (surveyed = none → ∃ log log',
      (execute settings tables limit today).runIn (.constant reply outcome)
        = (.error .outOfPages, log) ∧
      (execute settings tables limit today).runIn (.constant reply' outcome)
        = (.error .outOfPages, log')) ∧
    ∀ s, surveyed = some s →
    let directories := uncoveredDirectories tables limit plugins s.directories
    let repositories := uncoveredRepositories tables limit plugins directories s.repositories
    ∃ rows row row' report report' log log',
      List.Forall₂ (Item.Shows run) ((plugins.erase p).map (run.releasedIn reply outcome)
        ++ (directories.map .directory ++ repositories.map .repository)) rows ∧
      Item.Shows run (run.releasedIn reply outcome p) row ∧
      Item.Shows run (run.releasedIn reply' outcome p) row' ∧
      (execute settings tables limit today).runIn (.constant reply outcome)
        = (.ok report, log) ∧
      (execute settings tables limit today).runIn (.constant reply' outcome)
        = (.ok report', log') ∧
      report.rows.Perm (row :: rows) ∧ report'.rows.Perm (row' :: rows) ∧
      report.unused.filter (!hasKeyOf p.id ·) = report'.unused.filter (!hasKeyOf p.id ·) := by
  intro github plugins repository hp hkind honly hurl hsame run surveyed
  obtain ⟨before, after, hsplit, herase, hrest⟩ :=
    exists_split_of_mem (pairwise_id_pluginsOf hfeed _) hp
  have hids : ∀ q ∈ before ++ after, q.id ≠ p.id := fun q hq => (hrest q hq).2
  have hothers : ∀ q ∈ before ++ after, q.kind = .hostedGit →
      github.qualified q.repository ≠ repository := fun q hq hgit hqualified =>
    hids q hq (congrArg Plugin.id (honly q (hrest q hq).1 hgit hqualified))
  have hindex : run.svn.index.HasPlainVersions :=
    Svn.Backend.hasPlainVersions_of_connect (Session.canGive_result _ _ _)
  have hconnect : (Svn.Backend.connect settings.svn).result reply outcome
      = (Svn.Backend.connect settings.svn).result reply' outcome :=
    (Svn.Backend.fetchesOnly_connect settings.svn).result_eq (fun _ h => h.elim) outcome
  have hbody' : (reply' (.get settings.feed.url)).text? = some body := hsame _ hurl ▸ hbody
  have hlisting : (run.repositoriesFrom lastPage 1).result reply outcome
      = (run.repositoriesFrom lastPage 1).result reply' outcome :=
    result_repositoriesFrom_of_agree outcome hsame
  obtain ⟨log, hexecute⟩ := execute_constant outcome hbody hfeed tables limit today
  obtain ⟨log', hexecute'⟩ := execute_constant outcome hbody' hfeed tables limit today
  rw [← hconnect] at hexecute'
  rw [result_survey] at hexecute hexecute'
  rw [← hlisting] at hexecute'
  have hsurveyed : surveyed = ((run.repositoriesFrom lastPage 1).result reply outcome).map
      (run.surveyIn reply outcome plugins) := run.result_survey reply outcome plugins
  cases hlisted : (run.repositoriesFrom lastPage 1).result reply outcome with
  | none =>
    rw [hlisted] at hexecute hexecute' hsurveyed
    refine ⟨fun _ => ⟨log, log', hexecute, hexecute'⟩, fun s hs => ?_⟩
    rw [hsurveyed] at hs
    cases hs
  | some listed =>
    rw [hlisted] at hexecute hexecute' hsurveyed
    refine ⟨fun hnone => ?_, fun s hs => ?_⟩
    · rw [hsurveyed] at hnone
      cases hnone
    rw [hsurveyed] at hs
    obtain rfl : run.surveyIn reply outcome plugins listed = s := Option.some.inj hs
    -- Both reports are compared with what the first answers give for the other items.
    obtain ⟨row, hrow, hperm, hunused⟩ := reportOf_surveyIn_of_agree outcome hrules hindex hids
      hothers (fun url _ => Eq.refl (reply (.get url))) tables limit listed
    obtain ⟨row', hrow', hperm', hunused'⟩ := reportOf_surveyIn_of_agree outcome hrules hindex hids
      hothers hsame tables limit listed
    simp only [← hsplit] at hperm hunused hperm' hunused'
    refine ⟨_, row, row', _, _, log, log', ?_, hrow, hrow', hexecute, hexecute', hperm, hperm',
      hunused.trans hunused'.symm⟩
    rw [herase]
    exact shows_rowsFrom run _ _

/-- A feed with two plugins on the git host. -/
def hostedFeed : String :=
  "\x7b\"plugins\":\x7b\"a\":\x7b\"version\":\"1\",\"scm\":\"github.com\"\x7d,"
    ++ "\"b\":\x7b\"version\":\"2\",\"scm\":\"github.com\"\x7d\x7d\x7d"

/-- Answers with the feed, with some answer for the tags of one plugin, and with nothing else. -/
def hostedReply (tags : Reply) (r : Request) : Reply :=
  if r = .get "feed" then .answered 200 (Text.Utf8.encode hostedFeed)
  else if r = .get "api/repos/jenkinsci/b-plugin/tags" then tags
  else .unreachable

/-- The tags of one plugin can be had or not.  This shows in the row of the plugin, and it decides
which of two entries for it is used. -/
theorem execute_isolates_repository_sample :
    let settings : Settings := { feed := { url := "feed" }, github := { apiUrl := "api" } }
    let tables : Overrides.Tables :=
      { knownRevisions := .ofText "a-?-0|checked\nb-2-0|tagged\nb-?-0|lost\nc-1-1|old" }
    let outcome : Call → Outcome := fun _ => .notFound
    let reply := hostedReply (.answered 200
      (Text.Utf8.encode "[\x7b\"name\":\"b-2\",\"commit\":\x7b\"sha\":\"x\"\x7d\x7d]"))
    let reply' := hostedReply .unreachable
    ∃ rows row row' report report' log log',
      (execute settings tables none ⟨2011, 3, 3, by decide⟩).runIn (.constant reply outcome)
        = (.ok report, log) ∧
      (execute settings tables none ⟨2011, 3, 3, by decide⟩).runIn (.constant reply' outcome)
        = (.ok report', log') ∧
      report.rows.Perm (row :: rows) ∧ report'.rows.Perm (row' :: rows) ∧ rows.length = 1 ∧
      report.unused = [("b-?-0", "lost"), ("c-1-1", "old")] ∧
      report'.unused = [("b-2-0", "tagged"), ("c-1-1", "old")] ∧
      report.unused.filter (!hasKeyOf "b" ·) = report'.unused.filter (!hasKeyOf "b" ·) := by
  intro settings tables outcome reply reply'
  let p : Plugin :=
    { id := "b", version := "2", wiki := none, releaseTimestamp := none, kind := .hostedGit
      repository := "b-plugin" }
  let feed : List (String × FeedEntry) := [("a", { version := "1", host := some "github.com" }),
    ("b", { version := "2", host := some "github.com" })]
  let github := Github.Backend.ofSettings settings.github tables.tagRules
  let plugins := pluginsOf (startContext tables none) feed
  have hbody : (reply (.get settings.feed.url)).text? = some hostedFeed := by decide +kernel
  have hfeed : Feed.read? hostedFeed = some feed := by decide +kernel
  have hp : p ∈ plugins := by decide +kernel
  have honly : ∀ q ∈ plugins, q.kind = .hostedGit →
      github.qualified q.repository = github.qualified p.repository → q = p := by decide +kernel
  have hurl : ¬ github.IsHistoryUrl (github.qualified p.repository) settings.feed.url := by
    decide +kernel
  have htags : github.client.tagsUrl (github.qualified p.repository)
      = "api/repos/jenkinsci/b-plugin/tags" := by decide +kernel
  have hsame : ∀ url, ¬ github.IsHistoryUrl (github.qualified p.repository) url →
      reply (.get url) = reply' (.get url) := by
    intro url hbeside
    have hne : url ≠ "api/repos/jenkinsci/b-plugin/tags" := fun h =>
      hbeside (.inl (h.trans htags.symm))
    simp [reply, reply', hostedReply, hne]
  let run : Run := ⟨settings, ⟨2011, 3, 3, by decide⟩, github,
    (Svn.Backend.connect settings.svn).result reply outcome⟩
  have hlisted : ((run.survey plugins).result reply outcome).map
      (fun s => (s.directories, s.repositories)) = some ([], []) := by decide +kernel
  obtain ⟨s, hs, hlistings⟩ := Option.map_eq_some_iff.1 hlisted
  obtain ⟨hdirectories, hrepositories⟩ := Prod.mk.inj hlistings
  obtain ⟨rows, row, row', report, report', log, log', hrows, -, -, hexecute, hexecute', hperm,
    hperm', hunused⟩ := (execute_isolates_repository outcome none ⟨2011, 3, 3, by decide⟩ rfl hbody
      hfeed hp rfl honly hurl hsame).2 s hs
  have hlength : rows.length = 1 := by
    rw [← hrows.length_eq, hdirectories, hrepositories]
    decide +kernel
  have hreport : ((execute settings tables none ⟨2011, 3, 3, by decide⟩).runIn
      (.constant reply outcome)).1.toOption.map (·.unused)
        = some [("b-?-0", "lost"), ("c-1-1", "old")] := by decide +kernel
  have hreport' : ((execute settings tables none ⟨2011, 3, 3, by decide⟩).runIn
      (.constant reply' outcome)).1.toOption.map (·.unused)
        = some [("b-2-0", "tagged"), ("c-1-1", "old")] := by decide +kernel
  rw [hexecute] at hreport
  rw [hexecute'] at hreport'
  exact ⟨rows, row, row', report, report', log, log', hexecute, hexecute', hperm, hperm', hlength,
    Option.some.inj hreport, Option.some.inj hreport', hunused⟩

end Run
end ReleaseGap
