import ReleaseGap.Proofs.Run.Coverage
import ReleaseGap.Proofs.Run.Keys

/-!
# Keys that two plugins share

An entry of the operator is used for the plugin that it was written for, or for one that is read in
the same text.  Only a tag rule with a suffix or with a project descriptor makes such plugins, so an
operator without such rules need not look out for them.
-/
namespace ReleaseGap

namespace Run

variable {settings : Settings} {tables : Overrides.Tables} {limit : Option String}
  {today : Calendar.Date} {world : World} {log : List Question} {run : Run} {s : Survey}
  {plugin : Plugin} {version : String}

/-- An item that may use the entry written for a plugin at a version with a number of changes: that
plugin, or one that is read in the same text with as many changes. -/
def Item.MayTake (plugin : Plugin) (version : String) (count : Nat) : Item → Prop
  | .released other collected => other.id = plugin.id ∨
      collected.count = count ∧
        Classification.Overlap plugin.id version other.id collected.version
  | .directory _ => False
  | .repository _ => False

theorem Item.mayTake_of_key_eq {count : Nat} {item : Item}
    (h : item.key = Classification.key plugin.id version count) :
    item.MayTake plugin version count := by
  cases item with
  | released other collected =>
    obtain ⟨hcount, ⟨hid, -⟩ | hoverlap⟩ := Classification.key_eq_key_iff.1 h.symm
    · exact .inl hid.symm
    · exact .inr ⟨hcount.symm, hoverlap⟩
  | directory name => exact Classification.key_ne_unreleasedKey _ _ _ name h.symm
  | repository name => exact Classification.key_ne_unreleasedKey _ _ _ name h.symm

theorem Item.not_mayTake_of_key_ne {count : Nat} {other : Plugin} {collected : Collected}
    (hid : other.id ≠ plugin.id)
    (h : Classification.key plugin.id version count
      ≠ Classification.key other.id collected.version collected.count) :
    ¬ (Item.released other collected).MayTake plugin version count := by
  rintro (hsame | ⟨hcount, hoverlap⟩)
  · exact hid hsame
  · exact h (Classification.key_eq_key_iff.2 ⟨hcount.symm, .inr hoverlap⟩)

/-- A run takes its rules from the operator, its index from svn, and each plugin it surveyed at a
version that it can resolve. -/
theorem canResolve_of_runIn_explore
    (h : (explore settings tables limit today).runIn world = (.ok (run, s), log)) :
    run.github.tagRules = tables.tagRules ∧ run.svn.index.HasPlainVersions ∧
      ∀ found ∈ s.collected, run.CanResolve found.1 found.2.version := by
  obtain ⟨_, feed, past, -, -, hrun, hsurvey⟩ := exists_feed_of_runIn_explore h
  refine ⟨by rw [hrun]; rfl, ?index, fun found hfound => ?resolved⟩
  case index =>
    rw [hrun]
    exact Svn.Backend.hasPlainVersions_of_connect ⟨world, past, rfl⟩
  case resolved =>
    have hvisited : (run.visit (pluginsOf (startContext tables limit) feed)).CanGive
        (s.collected, s.directories) := ⟨world, _, (of_runFrom_survey hsurvey).1.symm⟩
    obtain ⟨collected, hcollected, hvisited⟩ := Session.exists_canGive_of_bind hvisited
    obtain ⟨directories, -, heq⟩ := Session.exists_canGive_of_bind_pure hvisited
    obtain ⟨rfl, rfl⟩ := Prod.mk.inj heq
    obtain ⟨plugin, -, hplugin⟩ := Session.exists_canGive_of_mem_mapM hcollected hfound
    rw [← fst_of_collectedFor hplugin] at hplugin
    exact ⟨found, hplugin, rfl⟩

/-- What a run surveys, and which items it has, does not depend on the known revisions. -/
theorem explore_withKnown (known : Overrides.Table) :
    explore settings { tables with knownRevisions := known } limit today
      = explore settings tables limit today := rfl

theorem items_withKnown (known : Overrides.Table) :
    items (startContext { tables with knownRevisions := known } limit) s
      = items (startContext tables limit) s := by
  rw [items_eq, items_eq]
  rfl

theorem mem_unused_reportOf_iff {key content : String} :
    (key, content) ∈ (run.reportOf (startContext tables limit) s).unused ↔
      ∃ entry, (key, entry) ∈ tables.knownRevisions.entries ∧ entry.content = content ∧
        limit.all (Text.startsWith key ·) = true ∧
        ∀ item ∈ items (startContext tables limit) s, item.key ≠ key := by
  have hunused : (run.reportOf (startContext tables limit) s).unused = _ :=
    unused_assemble run _ s
  simp only [hunused, admits_start, List.mem_map, List.mem_filter, Bool.and_eq_true,
    Bool.not_eq_true', List.contains_eq_mem, decide_eq_false_iff_not, not_exists, not_and]
  constructor
  · rintro ⟨⟨_, entry⟩, ⟨hmem, hlimit, hkeys⟩, hentry⟩
    obtain ⟨rfl, rfl⟩ := Prod.mk.inj hentry
    exact ⟨entry, hmem, rfl, hlimit, hkeys⟩
  · rintro ⟨entry, hmem, rfl, hlimit, hkeys⟩
    exact ⟨(key, entry), ⟨hmem, hlimit, hkeys⟩, rfl⟩

/-- Plugins with different ids have one key only if they are read in the same text and have as many
changes; one of them then has a tag rule that may give versions with hyphens.  For all other
plugins, directories and repositories of a run an entry counts for nothing: their rows are the same
without it, and it stays unused. -/
theorem execute_keys_overlap
    (h : (explore settings tables limit today).runIn world = (.ok (run, s), log))
    (hversion : run.CanResolve plugin version) :
    (∀ other version', other.id ≠ plugin.id → run.CanResolve other version' →
      (∀ count count', Classification.key plugin.id version count
          = Classification.key other.id version' count' ↔
        count = count' ∧ Classification.Overlap plugin.id version other.id version') ∧
      (Classification.Extends plugin.id version other.id version' →
        plugin.AdmitsHyphens tables.tagRules) ∧
      (Classification.Extends other.id version' plugin.id version →
        other.AdmitsHyphens tables.tagRules)) ∧
    (∀ found ∈ s.collected, run.CanResolve found.1 found.2.version) ∧
    ∀ count,
      let key := Classification.key plugin.id version count
      let without : Overrides.Tables :=
        { tables with knownRevisions := tables.knownRevisions.erase key }
      let listed : List Item := items (startContext tables limit) s
      ∃ report report' rows rows',
        (execute settings tables limit today).runIn world = (.ok report, log) ∧
        (execute settings without limit today).runIn world = (.ok report', log) ∧
        report.rows.Perm rows ∧ report'.rows.Perm rows' ∧
        List.Forall₂ (Item.Shows run) listed rows ∧
        List.Forall₂ (Item.Shows run) listed rows' ∧
        (∀ (i : Nat) (item : Item), listed[i]? = some item → ¬ item.MayTake plugin version count →
          rows[i]? = rows'[i]?) ∧
        ∀ entry, (key, entry) ∈ tables.knownRevisions.entries →
          limit.all (Text.startsWith key ·) = true →
          (key, entry.content) ∈ report.unused ∨
            ∃ item ∈ listed, item.MayTake plugin version count := by
  obtain ⟨hrules, hindex, hresolved⟩ := canResolve_of_runIn_explore h
  refine ⟨fun other version' hids hversion' => ⟨fun count count' => ?keys, ?rule, ?rule'⟩,
    hresolved, ?entry⟩
  case keys =>
    rw [Classification.key_eq_key_iff]
    refine and_congr_right fun _ => ⟨?_, .inr⟩
    rintro (⟨hid, -⟩ | hoverlap)
    · exact absurd hid.symm hids
    · exact hoverlap
  case rule =>
    intro hextends
    by_contra hplain
    exact Classification.not_isPlainVersion_of_extends hextends
      (isPlainVersion_of_canResolve hindex (hrules ▸ hplain) hversion)
  case rule' =>
    intro hextends
    by_contra hplain
    exact Classification.not_isPlainVersion_of_extends hextends
      (isPlainVersion_of_canResolve hindex (hrules ▸ hplain) hversion')
  case entry =>
    intro count key without listed
    have hwithout : (explore settings without limit today).runIn world = (.ok (run, s), log) :=
      (congrArg (Session.runIn world) (explore_withKnown _)).trans h
    have hrows := run.rows_reportOf_perm (startContext tables limit) s
    have hrows' := run.rows_reportOf_perm (startContext without limit) s
    have hlisted : items (startContext without limit) s = listed := items_withKnown _
    rw [hlisted] at hrows'
    refine ⟨_, _, _, _, runIn_execute tables limit h, runIn_execute without limit hwithout, hrows,
      hrows', shows_rowsFrom run _ listed, shows_rowsFrom run _ listed, ?_, ?_⟩
    · intro i item hitem hother
      have hkey : item.key ≠ key := fun hkey => hother (Item.mayTake_of_key_eq hkey)
      exact (getElem?_rowsFrom_erase run tables.knownRevisions hitem hkey).symm
    · intro entry hentry hlimit
      by_cases hused : ∃ item ∈ listed, item.key = key
      · obtain ⟨item, hitem, hkey⟩ := hused
        exact .inr ⟨item, hitem, Item.mayTake_of_key_eq hkey⟩
      · push Not at hused
        exact .inl (mem_unused_reportOf_iff.2 ⟨entry, hentry, rfl, hlimit, hused⟩)

/-- Two plugins on the git host and more of them in the feed.  The version of the first is in its
project descriptor. -/
def overlapWorldWith (more : String) : World := Snapshot.world {
  replies := [
    ("feed", [.answered 200 (Text.Utf8.encode
      ("\x7b\"plugins\":\x7b\"foo\":\x7b\"version\":\"1-2\",\"scm\":\"github.com\"\x7d,"
        ++ "\"foo-1\":\x7b\"version\":\"2\",\"scm\":\"github.com\"\x7d" ++ more
        ++ "\x7d\x7d"))]),
    ("api/repos/jenkinsci/foo-plugin/tags", [.answered 200 (Text.Utf8.encode
      "[\x7b\"name\":\"git-2\",\"commit\":\x7b\"sha\":\"x\"\x7d\x7d]")]),
    ("https://github.com/jenkinsci/foo-plugin/raw/git-2/plugin/pom.xml", [.answered 200
      (Text.Utf8.encode "<project><version>1-2</version></project>")]),
    ("api/repos/jenkinsci/foo-1-plugin/tags", [.answered 200 (Text.Utf8.encode
      "[\x7b\"name\":\"foo-1-2\",\"commit\":\x7b\"sha\":\"y\"\x7d\x7d]")])] }

/-- Nothing but the two plugins. -/
def overlapWorld : World := overlapWorldWith ""

/-- A plugin more, without a release. -/
def overlapWorldBeside : World :=
  overlapWorldWith ",\"bar\":\x7b\"version\":\"2\",\"scm\":\"github.com\"\x7d"

/-- The operator has one entry, and a rule by which the first plugin's version is looked up. -/
def overlapTables : Overrides.Tables :=
  { knownRevisions := .ofText "foo-1-2-0|reviewed", tagRules := .ofText "foo|git|plugin" }

def shorterPlugin : Plugin :=
  { id := "foo", version := "1-2", wiki := none, releaseTimestamp := none, kind := .hostedGit
    repository := "foo-plugin" }

def longerPlugin : Plugin :=
  { id := "foo-1", version := "2", wiki := none, releaseTimestamp := none, kind := .hostedGit
    repository := "foo-1-plugin" }

def besidePlugin : Plugin :=
  { id := "bar", version := "2", wiki := none, releaseTimestamp := none, kind := .hostedGit
    repository := "bar-plugin" }

def besideCollected : Collected :=
  { version := "?", revisions := [], compareUrl := "https://github.com/jenkinsci/bar-plugin" }

/-- The items of the two plugins. -/
def overlapItems : List Item :=
  [.released shorterPlugin
      ⟨"1-2", [], "https://github.com/jenkinsci/foo-plugin/compare/git-2...master"⟩,
    .released longerPlugin
      ⟨"2", [], "https://github.com/jenkinsci/foo-1-plugin/compare/foo-1-2...master"⟩]

/-- Which plugins a run finds at which versions, what it lists and the rows of that. -/
def overlapView (found : Run × Survey) :
    List (Plugin × String) × List Item × List Report.Row :=
  let listed := items (startContext overlapTables none) found.2
  (found.2.collected.map fun q => (q.1, q.2.version), listed,
    rowsFrom found.1 overlapTables.knownRevisions listed)

theorem exists_explore_of_overlapView {world : World} {resolved : List (Plugin × String)}
    {listed : List Item} {rows : List Report.Row}
    (hview : ((explore nearSettings overlapTables none ⟨2011, 3, 3, by decide⟩).runIn
      world).1.toOption.map overlapView = some (resolved, listed, rows)) :
    ∃ run s log,
      (explore nearSettings overlapTables none ⟨2011, 3, 3, by decide⟩).runIn world
        = (.ok (run, s), log) ∧
      (∀ q ∈ resolved, run.CanResolve q.1 q.2) ∧
      items (startContext overlapTables none) s = listed ∧
      rowsFrom run overlapTables.knownRevisions listed = rows := by
  obtain ⟨⟨run, s⟩, log, hexplore, hshown⟩ := exists_ok_of_view hview
  obtain ⟨hcollected, hshown⟩ := Prod.mk.inj hshown
  obtain ⟨hlisted, hrows⟩ := Prod.mk.inj hshown
  refine ⟨run, s, log, hexplore, fun q hq => ?_, hlisted, hlisted ▸ hrows⟩
  rw [← hcollected] at hq
  obtain ⟨found, hfound, rfl⟩ := List.mem_map.1 hq
  exact (canResolve_of_runIn_explore hexplore).2.2 found hfound

/-- The two plugins have one key whenever they have as many changes.  The entry counts for them, and
the third plugin has the same row with it and without it. -/
theorem execute_keys_overlap_sample :
    ∃ run s log report report' rows rows',
      (explore nearSettings overlapTables none ⟨2011, 3, 3, by decide⟩).runIn overlapWorldBeside
        = (.ok (run, s), log) ∧
      run.CanResolve shorterPlugin "1-2" ∧ run.CanResolve longerPlugin "2" ∧
      (∀ count count', Classification.key "foo" "1-2" count
          = Classification.key "foo-1" "2" count' ↔ count = count') ∧
      shorterPlugin.AdmitsHyphens overlapTables.tagRules ∧
      let without := { overlapTables with
        knownRevisions := overlapTables.knownRevisions.erase "foo-1-2-0" }
      let listed := items (startContext overlapTables none) s
      (execute nearSettings overlapTables none ⟨2011, 3, 3, by decide⟩).runIn overlapWorldBeside
        = (.ok report, log) ∧
      (execute nearSettings without none ⟨2011, 3, 3, by decide⟩).runIn overlapWorldBeside
        = (.ok report', log) ∧
      report.rows.Perm rows ∧ report'.rows.Perm rows' ∧
      List.Forall₂ (Item.Shows run) listed rows ∧ List.Forall₂ (Item.Shows run) listed rows' ∧
      listed[0]? = some (.released besidePlugin besideCollected) ∧ rows[0]? = rows'[0]? ∧
      (("foo-1-2-0", "reviewed") ∈ report.unused ∨
        ∃ item ∈ listed, item.MayTake shorterPlugin "1-2" 0) := by
  have hview : ((explore nearSettings overlapTables none ⟨2011, 3, 3, by decide⟩).runIn
      overlapWorldBeside).1.toOption.map overlapView
        = some ([(besidePlugin, "?"), (shorterPlugin, "1-2"), (longerPlugin, "2")],
          .released besidePlugin besideCollected :: overlapItems,
          [⟨"| bar | | ? |  | ? (_Version mismatch: json has 2_)",
              "? (_Version mismatch: json has 2_)"⟩,
            ⟨"| foo | | 1-2 |  | reviewed", "reviewed"⟩, ⟨"| foo-1 | | 2 |  | ?", "?"⟩]) := by
    decide +kernel
  obtain ⟨run, s, log, hexplore, hresolved, hlisted, -⟩ := exists_explore_of_overlapView hview
  have hshorter : run.CanResolve shorterPlugin "1-2" := hresolved (shorterPlugin, "1-2") (by simp)
  have hlonger : run.CanResolve longerPlugin "2" := hresolved (longerPlugin, "2") (by simp)
  obtain ⟨hpairs, -, hentries⟩ := execute_keys_overlap hexplore hshorter
  obtain ⟨hkeys, hrule, -⟩ := hpairs longerPlugin "2" (by decide) hlonger
  have hextends : Classification.Extends "foo" "1-2" "foo-1" "2" := ⟨"1", by decide, by decide⟩
  obtain ⟨report, report', rows, rows', hreport, hreport', hperm, hperm', hshows, hshows', hsame,
    hentry⟩ := hentries 0
  have hbeside : (items (startContext overlapTables none) s)[0]? =
      some (.released besidePlugin besideCollected) := by
    rw [hlisted]
    rfl
  have hother : ¬ (Item.released besidePlugin besideCollected).MayTake shorterPlugin "1-2" 0 :=
    Item.not_mayTake_of_key_ne (by decide) (by decide)
  exact ⟨run, s, log, report, report', rows, rows', hexplore, hshorter, hlonger,
    fun count count' => (hkeys count count').trans (and_iff_left (.inl hextends)), hrule hextends,
    hreport, hreport', hperm, hperm', hshows, hshows', hbeside, hsame 0 _ hbeside hother,
    hentry (.text "reviewed") (by decide +kernel) rfl⟩

/-- The entry written for one plugin labels another one. -/
theorem execute_shares_key :
    ∃ run s log report,
      (explore nearSettings overlapTables none ⟨2011, 3, 3, by decide⟩).runIn overlapWorld
        = (.ok (run, s), log) ∧
      shorterPlugin.id ≠ longerPlugin.id ∧
      run.CanResolve shorterPlugin "1-2" ∧ run.CanResolve longerPlugin "2" ∧
      Classification.key shorterPlugin.id "1-2" 0 = Classification.key longerPlugin.id "2" 0 ∧
      (execute nearSettings overlapTables none ⟨2011, 3, 3, by decide⟩).runIn overlapWorld
        = (.ok report, log) ∧
      report.rows.Perm
        [⟨"| foo | | 1-2 |  | reviewed", "reviewed"⟩, ⟨"| foo-1 | | 2 |  | ?", "?"⟩] := by
  have hview : ((explore nearSettings overlapTables none ⟨2011, 3, 3, by decide⟩).runIn
      overlapWorld).1.toOption.map overlapView
        = some ([(shorterPlugin, "1-2"), (longerPlugin, "2")],
          overlapItems,
          [⟨"| foo | | 1-2 |  | reviewed", "reviewed"⟩, ⟨"| foo-1 | | 2 |  | ?", "?"⟩]) := by
    decide +kernel
  obtain ⟨run, s, log, hexplore, hresolved, hlisted, hrows⟩ := exists_explore_of_overlapView hview
  refine ⟨run, s, log, _, hexplore, by decide, hresolved (shorterPlugin, "1-2") (by simp),
    hresolved (longerPlugin, "2") (by simp), by decide,
    runIn_execute overlapTables none hexplore, ?_⟩
  rw [← hrows, ← hlisted]
  exact run.rows_reportOf_perm (startContext overlapTables none) s

end Run
end ReleaseGap
