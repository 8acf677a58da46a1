import Mathlib.Data.List.Nodup
import ReleaseGap.Proofs.Run.Coverage

/-!
# Repositories that are listed again

Nothing remembers which repositories have had a row.  A repository has as many rows as the pages of
the organization have entries for it, so that it has one row exactly if the pages list it once.  The
first row has the operator's label, and each further one the plain label.
-/
namespace ReleaseGap.Run

variable {settings : Settings} {tables : Overrides.Tables} {limit : Option String}
  {today : Calendar.Date} {world : World} {report : Report} {log : List Question} {s : Survey}
  {name : String}

/-- The name of a repository that was never released. -/
def Item.repositoryName? : Item → Option String
  | .repository name => some name
  | .released _ _ => none
  | .directory _ => none

/-- The repositories among some items, repeated ones included. -/
def repositoryNames (items : List Item) : List String := items.filterMap Item.repositoryName?

theorem repository_mem_iff {listed : List Item} :
    .repository name ∈ listed ↔ name ∈ repositoryNames listed := by
  rw [repositoryNames, List.mem_filterMap]
  refine ⟨fun h => ⟨_, h, rfl⟩, ?_⟩
  rintro ⟨item, hitem, hname⟩
  cases item with
  | released plugin collected => cases hname
  | directory other => cases hname
  | repository other => exact Option.some.inj hname ▸ hitem

theorem repositoryNames_items :
    repositoryNames (items (startContext tables limit) s) = repositoriesOf tables limit s := by
  rw [repositoryNames, items_eq, List.filterMap_append, List.filterMap_append]
  simp [releasedItems, List.filterMap_map, Item.repositoryName?, Function.comp_def]

/-- A repository that has a row has one for each time that it is listed. -/
theorem count_repositoryNames
    (h : .repository name ∈ items (startContext tables limit) s) :
    (repositoryNames (items (startContext tables limit) s)).count name
      = s.repositories.count name := by
  have hmem := repository_mem_iff.1 h
  rw [repositoryNames_items] at hmem ⊢
  exact List.count_filter (List.mem_filter.1 hmem).2

/-- A name whose key was taken has the plain label. -/
theorem labelOf_eraseAll {known : Overrides.Table} {keys : List String}
    (h : Context.unreleasedKey name ∈ keys) :
    labelOf (known.eraseAll keys) name = unreleasedLabel := by
  rw [labelOf, Overrides.Table.get?_eraseAll, if_pos h]

/-- A repository behind another item of its name has the plain label. -/
theorem rowsFrom_append_repository (run : Run) (known : Overrides.Table) {items : List Item}
    (h : .repository name ∈ items) (items' : List Item) :
    rowsFrom run known (items ++ .repository name :: items')
      = rowsFrom run known items
        ++ Report.Row.unreleased name (run.repositoryUrl name) unreleasedLabel ::
          rowsFrom run (known.eraseAll (items.map Item.key)) items' := by
  have hkey : Context.unreleasedKey name ∈ items.map Item.key := List.mem_map.2 ⟨_, h, rfl⟩
  have hgone : (known.eraseAll (items.map Item.key)).get? (Item.repository name).key = none := by
    rw [Overrides.Table.get?_eraseAll]
    exact if_pos hkey
  rw [rowsFrom_append, rowsFrom, Item.row, labelOf_eraseAll hkey,
    Overrides.Table.erase_eq_self hgone]

/-- A repository has as many rows as the pages have entries for it, so that each has one row exactly
if the pages list none of them again.  Only the first row has the operator's label. -/
theorem count_repositories_execute
    (h : (execute settings tables limit today).runIn world = (.ok report, log)) :
    ∃ run s, (explore settings tables limit today).runIn world = (.ok (run, s), log) ∧
      let listed := items (startContext tables limit) s
      report.rows.Perm (rowsFrom run tables.knownRevisions listed) ∧
      (∀ name, .repository name ∈ listed →
        (repositoryNames listed).count name = s.repositories.count name) ∧
      ((repositoryNames listed).Nodup ↔
        ∀ name, .repository name ∈ listed → s.repositories.count name = 1) ∧
      ∀ before name after, listed = before ++ .repository name :: after →
        .repository name ∈ before →
        rowsFrom run tables.knownRevisions listed
          = rowsFrom run tables.knownRevisions before
            ++ Report.Row.unreleased name (run.repositoryUrl name) unreleasedLabel ::
              rowsFrom run (tables.knownRevisions.eraseAll (before.map Item.key)) after := by
  obtain ⟨run, s, hfound, hrows⟩ := exists_survey_of_execute h
  refine ⟨run, s, hfound, hrows, fun _ => count_repositoryNames, ?once, ?labels⟩
  case once =>
    rw [List.nodup_iff_count_eq_one]
    refine forall_congr' fun name => ?_
    rw [← repository_mem_iff]
    exact forall_congr' fun hname => by rw [count_repositoryNames hname]
  case labels =>
    intro before name after hlisted hbefore
    rw [hlisted]
    exact rowsFrom_append_repository run tables.knownRevisions hbefore after

/-- A listing that shifts between two requests: the last repository of one page is the first of the
next. -/
def shiftedWorld : World := Snapshot.world {
  replies := [
    ("feed", [.answered 200 (Text.Utf8.encode "\x7b\"plugins\":\x7b\x7d\x7d")]),
    ("api/orgs/jenkinsci/repos?page=1&per_page=100", [.answered 200 (Text.Utf8.encode
      "[\x7b\"name\":\"foo\"\x7d,\x7b\"name\":\"bar\"\x7d]")]),
    ("api/orgs/jenkinsci/repos?page=2&per_page=100", [.answered 200 (Text.Utf8.encode
      "[\x7b\"name\":\"bar\"\x7d]")])] }

def barMoved : Overrides.Tables := { knownRevisions := .ofText "bar-unreleased|moved" }

theorem exists_explore_shiftedWorld :
    ∃ run s log, (explore nearSettings barMoved none ⟨2011, 3, 3, by decide⟩).runIn shiftedWorld
        = (.ok (run, s), log) ∧
      items (startContext barMoved none) s
        = [.repository "foo", .repository "bar", .repository "bar"] ∧
      s.repositories = ["foo", "bar", "bar"] := by
  have hview : ((explore nearSettings barMoved none ⟨2011, 3, 3, by decide⟩).runIn
      shiftedWorld).1.toOption.map
        (fun f => (items (startContext barMoved none) f.2, f.2.repositories))
      = some ([.repository "foo", .repository "bar", .repository "bar"],
          ["foo", "bar", "bar"]) := by decide +kernel
  obtain ⟨⟨run, s⟩, log, hexplore, hlisted⟩ := exists_ok_of_view hview
  exact ⟨run, s, log, hexplore, Prod.mk.inj hlisted⟩

/-- Of the repository that is listed twice only the first row has the operator's label. -/
theorem count_repositories_execute_sample :
    ∃ report log run s,
      (execute nearSettings barMoved none ⟨2011, 3, 3, by decide⟩).runIn shiftedWorld
        = (.ok report, log) ∧
      (explore nearSettings barMoved none ⟨2011, 3, 3, by decide⟩).runIn shiftedWorld
        = (.ok (run, s), log) ∧
      let listed := items (startContext barMoved none) s
      (repositoryNames listed).count "foo" = 1 ∧ (repositoryNames listed).count "bar" = 2 ∧
      ¬ (repositoryNames listed).Nodup ∧
      Report.Row.unreleased "bar" (run.repositoryUrl "bar") unreleasedLabel ∈ report.rows := by
  obtain ⟨run, s, log, hexplore, hlisted, hrepositories⟩ := exists_explore_shiftedWorld
  have hexecute := runIn_execute barMoved none hexplore
  obtain ⟨_, _, hfound, hrows, hcount, honce, hlabels⟩ := count_repositories_execute hexecute
  obtain ⟨rfl, rfl⟩ := found_unique hexplore hfound
  have hfoo : .repository "foo" ∈ items (startContext barMoved none) s := by simp [hlisted]
  have hbar : .repository "bar" ∈ items (startContext barMoved none) s := by simp [hlisted]
  have hagain := hlabels [.repository "foo", .repository "bar"] "bar" [] hlisted (by simp)
  refine ⟨_, log, run, s, hexecute, hexplore, ?_, ?_, ?_, ?_⟩
  · rw [hcount "foo" hfoo, hrepositories]
    decide
  · rw [hcount "bar" hbar, hrepositories]
    decide
  · rw [honce]
    intro h
    exact absurd (h "bar" hbar) (by rw [hrepositories]; decide)
  · rw [hrows.mem_iff, hagain]
    exact List.mem_append_right _ List.mem_cons_self

/-- A repository that is listed twice has two rows with different labels. -/
theorem execute_repeats_listed_repository :
    ∃ report log run s,
      (execute nearSettings barMoved none ⟨2011, 3, 3, by decide⟩).runIn shiftedWorld
        = (.ok report, log) ∧
      (explore nearSettings barMoved none ⟨2011, 3, 3, by decide⟩).runIn shiftedWorld
        = (.ok (run, s), log) ∧
      items (startContext barMoved none) s
        = [.repository "foo", .repository "bar", .repository "bar"] ∧
      report.rows.Perm [
        Report.Row.unreleased "foo" (run.repositoryUrl "foo") "unreleased",
        Report.Row.unreleased "bar" (run.repositoryUrl "bar") "moved",
        Report.Row.unreleased "bar" (run.repositoryUrl "bar") "unreleased"] := by
  obtain ⟨run, s, log, hexplore, hlisted, -⟩ := exists_explore_shiftedWorld
  refine ⟨_, log, run, s, runIn_execute barMoved none hexplore, hexplore, hlisted, ?_⟩
  let known := barMoved.knownRevisions
  have hfoo : labelOf known "foo" = "unreleased" := by decide +kernel
  have hfirst : labelOf (known.erase (Item.repository "foo").key) "bar" = "moved" := by
    decide +kernel
  have hsecond : labelOf ((known.erase (Item.repository "foo").key).erase
      (Item.repository "bar").key) "bar" = "unreleased" := by decide +kernel
  have hrows : (run.reportOf (startContext barMoved none) s).rows.Perm
      (rowsFrom run known [.repository "foo", .repository "bar", .repository "bar"]) :=
    hlisted ▸ run.rows_reportOf_perm (startContext barMoved none) s
  simpa only [rowsFrom, Item.row, hfoo, hfirst, hsecond] using hrows

end ReleaseGap.Run
