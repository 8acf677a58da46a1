import ReleaseGap.Outside.Snapshot
import ReleaseGap.Proofs.Run.Items

/-!
# Unused entries

The entries that a report calls unused are exactly those of the operator's table, as they were
written, whose keys lie within the limit and were looked up for no row.
-/
namespace ReleaseGap.Run

/-- The context that a run starts with.  The tag rules go to the source. -/
def startContext (tables : Overrides.Tables) (limit : Option String) : Context :=
  Context.start { tables with tagRules := {} } limit

/-- All questions of a run, and what it finds by them, if the feed can be had and the listing
ends. -/
def explore (settings : Settings) (tables : Overrides.Tables) (limit : Option String)
    (today : Calendar.Date) : Session (Except NoReport (Run × Survey)) := do
  match ← Session.fetch settings.feed.url with
  | none => return .error (.failed (.feedUnavailable settings.feed.url))
  | some body =>
    match Feed.read? body with
    | none => return .error (.failed .feedMalformed)
    | some feed =>
      let svn ← Svn.Backend.connect settings.svn
      let github := Github.Backend.ofSettings settings.github tables.tagRules
      let run : Run := ⟨settings, today, github, svn⟩
      let s ← run.survey (pluginsOf (startContext tables limit) feed)
      return orOutOfPages (s.map (run, ·))

/-- The report on what a survey found. -/
def reportOf (run : Run) (c : Context) (s : Survey) : Report :=
  let p := run.assemble c s
  { p.report with unused := p.context.unused }.sort

@[simp] theorem map_orOutOfPages {α β : Type} (f : α → β) (a : Option α) :
    (orOutOfPages a).map f = orOutOfPages (a.map f) := by
  cases a <;> rfl

/-- A run asks all its questions first and makes its report of the answers. -/
theorem execute_eq (settings : Settings) (tables : Overrides.Tables) (limit : Option String)
    (today : Calendar.Date) :
    execute settings tables limit today = explore settings tables limit today >>= fun found =>
      pure (found.map fun f => f.1.reportOf (startContext tables limit) f.2) := by
  rw [execute, explore]
  simp only [bind_assoc]
  congr 1
  funext body
  cases body with
  | none => rfl
  | some body =>
    cases hfeed : Feed.read? body with
    | none => simp [hfeed, Except.map]
    | some feed =>
      simp only [hfeed, addAll_eq, bind_assoc, pure_bind, Option.map_map, map_orOutOfPages]
      rfl

theorem admits_start (tables : Overrides.Tables) (limit : Option String) (name : String) :
    (startContext tables limit).admits name = limit.all (Text.startsWith name ·) := by
  rw [Context.admits, startContext, Context.start]
  rcases limit with _ | l
  · rfl
  · by_cases hl : l = ""
    · subst hl
      simp [Text.startsWith]
    · simp [Option.filter, hl]

/-- The entries that nothing used are those that no item looked up. -/
theorem unused_assemble (run : Run) (c : Context) (s : Survey) :
    (run.assemble c s).context.unused = (c.tables.knownRevisions.entries.filter fun e =>
      c.admits e.1 && !((items c s).map Item.key).contains e.1).map
        fun e => (e.1, e.2.content) := by
  have hadmits : (run.assemble c s).context.admits = c.admits := by
    funext name
    simp [context_assemble, Context.admits, Context.withKnown, afterReleased,
      Context.propagateSkips]
  have hknown : (run.assemble c s).context.tables.knownRevisions
      = c.tables.knownRevisions.eraseAll ((items c s).map Item.key) := by
    rw [context_assemble]
    rfl
  rw [Context.unused, hadmits, hknown, Overrides.Table.entries_eraseAll, List.filter_filter]

/-- A report shows the items of its run, and its unused entries are those of the operator's table
within the limit that were looked up for none of them. -/
theorem unused_execute {settings : Settings} {tables : Overrides.Tables} {limit : Option String}
    {today : Calendar.Date} {world : World} {report : Report} {log : List Question}
    (h : (execute settings tables limit today).runIn world = (.ok report, log)) :
    ∃ run s rows,
      (explore settings tables limit today).runIn world = (.ok (run, s), log) ∧
      List.Forall₂ (Item.Shows run) (items (startContext tables limit) s) rows ∧
      report.rows.Perm rows ∧
      report.unused = (tables.knownRevisions.entries.filter fun e =>
        limit.all (Text.startsWith e.1 ·) &&
          !((items (startContext tables limit) s).map Item.key).contains e.1).map
            fun e => (e.1, e.2.content) := by
  rw [execute_eq, Session.runIn, Session.runFrom_bind, Session.runFrom_pure] at h
  rcases hfound : (explore settings tables limit today).runFrom world [] with ⟨found, asked⟩
  rw [hfound] at h
  obtain ⟨hreport, rfl⟩ := Prod.mk.inj h
  cases found with
  | error e => cases hreport
  | ok f =>
    obtain ⟨run, s⟩ := f
    obtain rfl : run.reportOf (startContext tables limit) s = report := Except.ok.inj hreport
    refine ⟨run, s, _, hfound, shows_rows_assemble run (startContext tables limit) s, ?_, ?_⟩
    · exact Report.rows_sort_perm _
    · change (run.assemble _ s).context.unused = _
      rw [unused_assemble]
      simp only [admits_start]
      rfl

/-- A feed with one plugin that was never tagged, two svn directories, and a table with an entry for
the plugin, one for a directory and one for neither. -/
def sampleWorld : World := Snapshot.world {
  replies := [("feed", [.answered 200
    (Text.Utf8.encode "\x7b\"plugins\":\x7b\"a\":\x7b\"version\":\"1\"\x7d\x7d\x7d")])]
  outcomes := [("--non-interactive ls https://svn.jenkins-ci.org/trunk/hudson/plugins",
    .exited 0 (Text.Utf8.encode "c/\nd/\n") [])] }

def sampleSettings : Settings := { feed := { url := "feed" } }

def sampleTables : Overrides.Tables :=
  { knownRevisions := .ofText "a-?-0|checked\nb-1-2|late\nc-unreleased" }

theorem unused_execute_sample :
    ∃ report log,
      (execute sampleSettings sampleTables none ⟨2011, 3, 3, by decide⟩).runIn sampleWorld
        = (.ok report, log) ∧
      report.unused = [("b-1-2", "late")] ∧
      ∃ run s rows,
        (explore sampleSettings sampleTables none ⟨2011, 3, 3, by decide⟩).runIn sampleWorld
          = (.ok (run, s), log) ∧
        List.Forall₂ (Item.Shows run) (items (startContext sampleTables none) s) rows ∧
        report.rows.Perm rows ∧
        report.unused = (sampleTables.knownRevisions.entries.filter fun e =>
          Option.all (Text.startsWith e.1 ·) none &&
            !((items (startContext sampleTables none) s).map Item.key).contains e.1).map
              fun e => (e.1, e.2.content) := by
  let result :=
    (execute sampleSettings sampleTables none ⟨2011, 3, 3, by decide⟩).runIn sampleWorld
  have hunused : result.1.toOption.map (·.unused) = some [("b-1-2", "late")] := by
    decide +kernel
  rcases h : result with ⟨_ | report, log⟩
  · rw [h] at hunused
    cases hunused
  · rw [h] at hunused
    exact ⟨report, log, h, Option.some.inj hunused, unused_execute h⟩

end ReleaseGap.Run
