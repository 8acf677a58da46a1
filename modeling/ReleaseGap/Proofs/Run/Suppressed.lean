import ReleaseGap.Proofs.Run.Coverage
import ReleaseGap.Proofs.Run.Isolation

/-!
# Suppressed names

The operator suppresses a name by the repository `skip`.  Once the released plugins have their rows,
each suppressed name with `-plugin` behind it is suppressed as well, whatever the operator says of
it; the names that this adds suppress no further ones.  No row of a report stands for a suppressed
plugin, nor for a directory or a repository of that name in either spelling.
-/
namespace ReleaseGap

namespace Overrides.Table

theorem mem_entries_iff {t : Table} {key : String} {entry : Entry} :
    (key, entry) ∈ t.entries ↔ t.get? key = some entry := by
  constructor
  · intro h
    exact Keyed.find?_eq_some_of_mem t.isOrdered h
  · intro h
    exact Keyed.mem_of_find?_eq_some h

theorem text?_eq_some_iff {t : Table} {key text : String} :
    t.text? key = some text ↔ t.get? key = some (.text text) := by
  rw [text?]
  rcases t.get? key with _ | _ | s <;> simp

/-- One entry put under several keys. -/
theorem get?_foldl_insert (t : Table) (keys : List String) (entry : Entry) (key : String) :
    (keys.foldl (fun t key => t.insert key entry) t).get? key
      = if key ∈ keys then some entry else t.get? key := by
  induction keys generalizing t with
  | nil => rfl
  | cons first keys ih =>
    rw [List.foldl_cons, ih, get?_insert]
    by_cases hkeys : key ∈ keys
    · simp [hkeys]
    · by_cases hfirst : first = key
      · simp [hfirst]
      · simp [hkeys, hfirst, Ne.symm hfirst]

end Overrides.Table

namespace Context

theorem isSkipped_iff {c : Context} {name : String} :
    c.isSkipped name = true ↔ c.tables.repositories.get? name = some (.text skipMark) := by
  rw [isSkipped, beq_iff_eq, Overrides.Table.text?_eq_some_iff]

/-- The names with `-plugin` behind the suppressed ones. -/
def pluginNames (t : Overrides.Table) : List String :=
  (t.entries.filter fun e => e.2.content == skipMark).map fun e => e.1 ++ "-plugin"

theorem mem_pluginNames_iff {t : Overrides.Table} {name : String} :
    name ∈ pluginNames t ↔ ∃ m, t.get? m = some (.text skipMark) ∧ name = m ++ "-plugin" := by
  have hentry : ∀ entry : Overrides.Entry,
      entry.content = skipMark ↔ entry = .text skipMark := by
    intro entry
    cases entry with
    | marker => decide
    | text s => simp [Overrides.Entry.content]
  simp only [pluginNames, List.mem_map, List.mem_filter, beq_iff_eq, hentry]
  constructor
  · rintro ⟨⟨m, entry⟩, ⟨hmem, rfl⟩, rfl⟩
    exact ⟨m, Overrides.Table.mem_entries_iff.1 hmem, rfl⟩
  · rintro ⟨m, hm, rfl⟩
    exact ⟨(m, .text skipMark), ⟨Overrides.Table.mem_entries_iff.2 hm, rfl⟩, rfl⟩

theorem get?_withPluginNamesSkipped (t : Overrides.Table) (key : String) :
    (withPluginNamesSkipped t).get? key
      = if key ∈ pluginNames t then some (.text skipMark) else t.get? key :=
  Overrides.Table.get?_foldl_insert t (pluginNames t) (.text skipMark) key

theorem isSkipped_propagateSkips_iff (c : Context) (name : String) :
    c.propagateSkips.isSkipped name = true ↔
      c.isSkipped name = true ∨ ∃ m, c.isSkipped m = true ∧ name = m ++ "-plugin" := by
  have hget : c.propagateSkips.tables.repositories.get? name = _ :=
    get?_withPluginNamesSkipped c.tables.repositories name
  simp only [isSkipped_iff, ← mem_pluginNames_iff, hget]
  by_cases hname : name ∈ pluginNames c.tables.repositories
  · simp [hname]
  · simp [hname]

/-- What the operator says of the other names stays. -/
theorem get?_propagateSkips {c : Context} {key : String}
    (h : ∀ m, c.isSkipped m = true → key ≠ m ++ "-plugin") :
    c.propagateSkips.tables.repositories.get? key = c.tables.repositories.get? key := by
  have hkey : key ∉ pluginNames c.tables.repositories := by
    intro hmem
    obtain ⟨m, hm, heq⟩ := mem_pluginNames_iff.1 hmem
    exact h m (isSkipped_iff.2 hm) heq
  exact (get?_withPluginNamesSkipped c.tables.repositories key).trans (if_neg hkey)

end Context

namespace Plugin

theorem ofFeed?_of_suppressed {id : String} {tables : Overrides.Tables}
    (h : tables.repositories.get? id = some (.text skipMark)) (entry : FeedEntry) :
    ofFeed? id entry tables = none := by
  simp [ofFeed?, Overrides.Table.text?_eq_some_iff.2 h]

end Plugin

namespace Run

variable {settings : Settings} {tables : Overrides.Tables} {limit : Option String}
  {today : Calendar.Date} {world : World} {report : Report} {log : List Question} {s : Survey}
  {name : String}

/-- What was surveyed are plugins of the feed. -/
theorem exists_feed_of_explore {run : Run}
    (h : (explore settings tables limit today).runIn world = (.ok (run, s), log)) :
    ∃ feed, s.collected.map Prod.fst = pluginsOf (startContext tables limit) feed := by
  obtain ⟨_, feed, _, -, -, -, hsurvey⟩ := exists_feed_of_runIn_explore h
  refine ⟨feed, ?_⟩
  have hcollected := congrArg Prod.fst (of_runFrom_survey hsurvey).1
  simp only [visit, Session.runFrom_bind, Session.runFrom_pure] at hcollected
  rw [hcollected]
  exact map_fst_collected _ world _ _

theorem notMem_pluginsOf_of_suppressed
    (h : tables.repositories.get? name = some (.text skipMark))
    (feed : List (String × FeedEntry)) {plugin : Plugin}
    (hplugin : plugin ∈ pluginsOf (startContext tables limit) feed) : plugin.id ≠ name := by
  rintro rfl
  obtain ⟨e, -, he⟩ := List.mem_filterMap.1 hplugin
  have hid := id_of_pluginOf? he
  rw [pluginOf?] at he
  split at he
  · rw [Plugin.ofFeed?_of_suppressed (hid ▸ h) e.2] at he
    cases he
  · cases he

theorem isSuppressed_iff :
    isSuppressed tables name = true ↔ tables.repositories.get? name = some (.text skipMark) ∨
      ∃ m, tables.repositories.get? m = some (.text skipMark) ∧ name = m ++ "-plugin" := by
  have hsuppressed : isSuppressed tables name
      = ({ tables } : Context).propagateSkips.isSkipped name := rfl
  rw [hsuppressed, Context.isSkipped_propagateSkips_iff]
  simp only [Context.isSkipped_iff]

/-- What the operator suppresses has no row: no plugin of that id, and no directory or repository of
that name or of the one with `-plugin` behind it.  The entries of all other names stay. -/
theorem execute_suppresses_skipped
    (h : (execute settings tables limit today).runIn world = (.ok report, log)) :
    (∃ run s, (explore settings tables limit today).runIn world = (.ok (run, s), log) ∧
      let listed := items (startContext tables limit) s
      report.rows.Perm (rowsFrom run tables.knownRevisions listed) ∧
      ∀ name, tables.repositories.get? name = some (.text skipMark) →
        (∀ plugin collected, .released plugin collected ∈ listed → plugin.id ≠ name) ∧
        .directory name ∉ listed ∧ .directory (name ++ "-plugin") ∉ listed ∧
        .repository name ∉ listed ∧ .repository (name ++ "-plugin") ∉ listed) ∧
    ∀ c : Context,
      (∀ name, c.propagateSkips.isSkipped name = true ↔
        c.isSkipped name = true ∨ ∃ m, c.isSkipped m = true ∧ name = m ++ "-plugin") ∧
      ∀ key, (∀ m, c.isSkipped m = true → key ≠ m ++ "-plugin") →
        c.propagateSkips.tables.repositories.get? key = c.tables.repositories.get? key := by
  obtain ⟨run, s, hfound, hrows⟩ := exists_survey_of_execute h
  refine ⟨⟨run, s, hfound, hrows, fun name hname => ⟨?plugins, ?listings⟩⟩, fun c => ⟨?_, ?_⟩⟩
  case plugins =>
    intro plugin collected hplugin
    obtain ⟨feed, hplugins⟩ := exists_feed_of_explore hfound
    have hmem : plugin ∈ s.collected.map Prod.fst :=
      List.mem_map_of_mem (released_mem_items.1 hplugin)
    exact notMem_pluginsOf_of_suppressed hname feed (hplugins ▸ hmem)
  case listings =>
    have hself : isSuppressed tables name = true := isSuppressed_iff.2 (.inl hname)
    have hmirror : isSuppressed tables (name ++ "-plugin") = true :=
      isSuppressed_iff.2 (.inr ⟨name, hname, rfl⟩)
    have hdirectory : ∀ n, isSuppressed tables n = true →
        .directory n ∉ items (startContext tables limit) s := by
      intro n hn hmem
      rw [(directory_mem_items.1 hmem).2.2.1] at hn
      cases hn
    have hrepository : ∀ n, isSuppressed tables n = true →
        .repository n ∉ items (startContext tables limit) s := by
      intro n hn hmem
      rw [(repository_mem_items.1 hmem).2.2.1] at hn
      cases hn
    exact ⟨hdirectory _ hself, hdirectory _ hmirror, hrepository _ hself, hrepository _ hmirror⟩
  · exact c.isSkipped_propagateSkips_iff
  · intro key hkey
    exact Context.get?_propagateSkips hkey

/-- The operator suppresses a plugin and a directory, but not the repository it would move to. -/
def suppressing : Overrides.Tables :=
  { repositories := .ofText "a|skip\nc|skip\nc-plugin|elsewhere" }

theorem execute_suppresses_skipped_sample :
    ∃ report log run s,
      (execute nearSettings suppressing none ⟨2011, 3, 3, by decide⟩).runIn troubledWorld
        = (.ok report, log) ∧
      (explore nearSettings suppressing none ⟨2011, 3, 3, by decide⟩).runIn troubledWorld
        = (.ok (run, s), log) ∧
      s.directories = ["a", "c"] ∧ s.repositories = ["b-plugin", "c-plugin", "x"] ∧
      let listed := items (startContext suppressing none) s
      .repository "x" ∈ listed ∧
      (∀ plugin collected, .released plugin collected ∈ listed → plugin.id ≠ "a") ∧
      .directory "a" ∉ listed ∧ .directory "c" ∉ listed ∧ .repository "c-plugin" ∉ listed := by
  let b : Plugin :=
    { id := "b", version := "2", wiki := none, releaseTimestamp := none, kind := .hostedGit
      repository := "b-plugin" }
  have hview : ((explore nearSettings suppressing none ⟨2011, 3, 3, by decide⟩).runIn
      troubledWorld).1.toOption.map (fun f => f.2.names)
        = some ([b], ["a", "c"], ["b-plugin", "c-plugin", "x"]) := by decide +kernel
  obtain ⟨⟨run, s⟩, log, hexplore, hnames⟩ := exists_ok_of_view hview
  have hexecute := runIn_execute suppressing none hexplore
  obtain ⟨⟨_, _, hfound, -, hsuppressed⟩, -⟩ := execute_suppresses_skipped hexecute
  obtain ⟨rfl, rfl⟩ := found_unique hexplore hfound
  simp only [Survey.names, Prod.mk.injEq] at hnames
  obtain ⟨hplugins, hdirectories, hrepositories⟩ := hnames
  obtain ⟨hplugin, ha, -⟩ := hsuppressed "a" (by decide +kernel)
  obtain ⟨-, hc, -, -, hmirror⟩ := hsuppressed "c" (by decide +kernel)
  have hx : .repository "x" ∈ items (startContext suppressing none) s := by
    rw [repository_mem_items, coveredRepositories_items, directoriesOf, hplugins, hdirectories,
      hrepositories]
    decide +kernel
  exact ⟨_, log, run, s, hexecute, hexplore, hdirectories, hrepositories, hx, hplugin, ha, hc,
    hmirror⟩

end Run
end ReleaseGap
