import ReleaseGap.Proofs.Run.Coverage
import ReleaseGap.Proofs.Run.Pages
import ReleaseGap.Proofs.Run.Requests

/-!
# The pages of the organization

A run asks for the pages that list the organization's repositories behind all that it asks for
elsewhere.  What the pages before the last one list is looked at in their order, and whatever the
last page is, the rows made until then stay.
-/
namespace ReleaseGap.Run

open Session (FetchesOnly)

variable {settings : Settings} {world : World} {past : List Question} {run : Run}
  {tables : Overrides.Tables} {limit : Option String} {today : Calendar.Date}
  {report : Report} {log : List Question} {s : Survey}

theorem fetchesOnly_collectedFor_of_any (hrun : run.AsksHostOf settings) (plugin : Plugin) :
    (run.collectedFor plugin).FetchesOnly fun url => ∀ page, url ≠ pageUrl settings page := by
  refine FetchesOnly.bind ?_ fun _ => Session.fetchesOnly_pure _
  rw [sourceOf]
  cases plugin.kind with
  | hostedGit =>
    refine (run.github.fetchesOnly_answer_of_any plugin).mono ?_
    rintro _ h page rfl
    exact h ⟨settings.github.organization, page, by rw [hrun.2, pageUrl]⟩
  | legacySvn => exact (run.svn.fetchesOnly_answer plugin).mono fun _ h => h.elim

/-- Before the listing a run asks for the feed, and then for no page of the listing. -/
theorem exists_asked_before_listing (tables : Overrides.Tables) (today : Calendar.Date)
    (settings : Settings) (world : World) (plugins : List Plugin) :
    let past := [.request (.get settings.feed.url)]
    let connected := (Svn.Backend.connect settings.svn).runFrom world past
    let run : Run := ⟨settings, today, .ofSettings settings.github tables.tagRules, connected.1⟩
    ∃ asked, ((run.visit plugins).runFrom world connected.2).2
        = .request (.get settings.feed.url) :: asked ∧
      ∀ page, .request (.get (pageUrl settings page)) ∉ asked := by
  intro past connected run
  have hhost : run.AsksHostOf settings := ⟨rfl, rfl⟩
  have hvisit : ((Svn.Backend.connect settings.svn).bind fun _ => run.visit plugins).FetchesOnly
      fun url => ∀ page, url ≠ pageUrl settings page :=
    ((Svn.Backend.fetchesOnly_connect _).mono fun _ h => h.elim).bind fun _ =>
      (FetchesOnly.mapM fun plugin _ => fetchesOnly_collectedFor_of_any hhost plugin).bind fun _ =>
        (run.svn.fetchesOnly_trunkDirectories.mono fun _ h => h.elim).bind fun _ =>
          Session.fetchesOnly_pure _
  obtain ⟨asked, hasked, hallowed⟩ := hvisit.exists_asked world past
  refine ⟨asked, ?_, fun page hpage => hallowed _ hpage page rfl⟩
  exact (congrArg Prod.snd (Session.runFrom_bind world past (Svn.Backend.connect settings.svn)
    fun _ => run.visit plugins)).symm.trans hasked

/-- The rows that are made do not depend on what is looked at behind them. -/
theorem rows_foldl_addRepository_append (run : Run) (p : Progress) (names names' : List String) :
    ∃ later, ((names ++ names').foldl run.addRepository p).report.rows
      = (names.foldl run.addRepository p).report.rows ++ later := by
  rw [List.foldl_append, foldl_addRepository run (names.foldl run.addRepository p) names',
    rows_foldl_addItem]
  exact ⟨_, rfl⟩

theorem exists_namesThrough_eq_append (settings : Settings) (world : World)
    (past : List Question) {n pages : Nat} (h : n ≤ pages) :
    ∃ names, namesThrough settings world past pages
      = namesThrough settings world past n ++ names := by
  induction h with
  | refl => exact ⟨[], (List.append_nil _).symm⟩
  | step h ih =>
    obtain ⟨names, hnames⟩ := ih
    exact ⟨_, by rw [namesThrough, hnames, List.append_assoc]⟩

/-- Where the feed is there, the pages that list the organization's repositories are asked for one
after another, each of them once, or twice if the first request fails, up to the first page that is
empty or cannot be had; where there is such a page among those with a number below 2 ^ 32, the run
does not get beyond it, and where there is none, it makes no report.  All that the pages list is
looked at once, in its order, behind the released plugins and the directories, and the rows made of
some of the pages are in the report, whatever comes of the others. -/
theorem execute_pages_listing (tables : Overrides.Tables) (limit : Option String)
    (today : Calendar.Date) {body : String} {feedPast : List Question}
    {feed : List (String × FeedEntry)}
    (hbody : (Session.fetch settings.feed.url).runIn world = (some body, feedPast))
    (hfeed : Feed.read? body = some feed) :
    ∃ asked last,
      (∀ page, .request (.get (pageUrl settings page)) ∉ asked) ∧
      let past := .request (.get settings.feed.url) :: asked
      let log := askedThrough settings world past last
      1 ≤ last ∧ last < 2 ^ 32 ∧
      (∀ page, 1 ≤ page → page < last → ¬ EndsWith settings world past page) ∧
      (EndsWith settings world past last ∨ last = 2 ^ 32 - 1) ∧
      (∀ page, 1 ≤ page → page < 2 ^ 32 → (∀ past, IsEndPage settings world past page) →
        last ≤ page ∧ EndsWith settings world past last) ∧
      (¬ EndsWith settings world past last →
        (execute settings tables limit today).runIn world = (.error .outOfPages, log)) ∧
      (EndsWith settings world past last → ∃ report run s,
        (execute settings tables limit today).runIn world = (.ok report, log) ∧
        (explore settings tables limit today).runIn world = (.ok (run, s), log) ∧
        s.repositories = namesThrough settings world past last ∧
        let before := run.assemble (startContext tables limit) { s with repositories := [] }
        let examined := fun pages =>
          (namesThrough settings world past pages).foldl run.addRepository before
        report = { (examined last).report with unused := (examined last).context.unused }.sort ∧
        (∀ pages ≤ last, ∃ later, report.rows.Perm ((examined pages).report.rows ++ later)) ∧
        ∀ bound, last ≤ bound →
          (run.addPages bound 1 before).runFrom world past = (some (examined last), log)) := by
  obtain rfl : [.request (.get settings.feed.url)] = feedPast := congrArg Prod.snd hbody
  let connected :=
    (Svn.Backend.connect settings.svn).runFrom world [.request (.get settings.feed.url)]
  let run : Run := ⟨settings, today, .ofSettings settings.github tables.tagRules, connected.1⟩
  let plugins := pluginsOf (startContext tables limit) feed
  let visited := (run.visit plugins).runFrom world connected.2
  have hhost : run.AsksHostOf settings := ⟨rfl, rfl⟩
  obtain ⟨asked, hasked, hnone⟩ :
      ∃ asked, visited.2 = .request (.get settings.feed.url) :: asked ∧
        ∀ page, Question.request (.get (pageUrl settings page)) ∉ asked :=
    exists_asked_before_listing tables today settings world plugins
  have hsurveyed : ∀ {listed}, (run.repositoriesFrom lastPage 1).runFrom world
      (.request (.get settings.feed.url) :: asked) = listed →
      (run.survey plugins).runFrom world connected.2
        = (listed.1.map (Survey.mk visited.1.1 visited.1.2), listed.2) := by
    rintro _ rfl
    rw [runFrom_survey, ← hasked]
  have hexplore : (explore settings tables limit today).runIn world
      = (orOutOfPages (((run.survey plugins).runFrom world connected.2).1.map (run, ·)),
        ((run.survey plugins).runFrom world connected.2).2) :=
    runIn_explore tables limit today hbody hfeed
  by_cases hends : ListingEnds settings world (.request (.get settings.feed.url) :: asked)
  · obtain ⟨last, hpos, hle, hlast, hmore, hlisting⟩ := exists_last_page hhost hends
    have hlt : last < 2 ^ 32 := Nat.lt_of_le_of_lt hle (by decide)
    let s : Survey := ⟨visited.1.1, visited.1.2,
      namesThrough settings world (.request (.get settings.feed.url) :: asked) last⟩
    have hfound : (explore settings tables limit today).runIn world = (.ok (run, s),
        askedThrough settings world (.request (.get settings.feed.url) :: asked) last) := by
      rw [hexplore, hsurveyed hlisting]
      rfl
    let before := run.assemble (startContext tables limit) { s with repositories := [] }
    -- What was looked at in the end is what the whole survey is assembled to.
    have hassemble : run.assemble (startContext tables limit) s =
        s.repositories.foldl run.addRepository before := rfl
    refine ⟨asked, last, hnone, hpos, hlt, hmore, .inl hlast, fun page hpage hpagelt hend => ?ends,
      fun hnot => absurd hlast hnot, fun _ => ⟨_, run, s, runIn_execute tables limit hfound, hfound,
        rfl, ?report, fun pages hle => ?rows, fun bound hbound => ?unbounded⟩⟩
    case ends =>
      refine ⟨?_, hlast⟩
      by_contra hlater
      exact hmore page hpage (by omega) (hend _)
    case report => rw [reportOf, hassemble]
    case rows =>
      obtain ⟨names, hnames⟩ := exists_namesThrough_eq_append settings world
        (.request (.get settings.feed.url) :: asked) hle
      obtain ⟨later, hlater⟩ := run.rows_foldl_addRepository_append before _ names
      refine ⟨later, ?_⟩
      rw [← hlater, ← hnames, ← hassemble]
      exact Report.rows_sort_perm _
    case unbounded =>
      obtain ⟨names, hfound, hthrough⟩ := runFrom_repositoriesFrom_of_endsWith hhost hlast hmore
        hpos (by omega : last ≤ 0 + bound)
      obtain rfl : namesThrough settings world _ last = names := hthrough
      rw [Nat.zero_add, askedThrough] at hfound
      rw [addPages_eq, Session.runFrom_bind, hfound, Session.runFrom_pure]
      rfl
  · refine ⟨asked, lastPage, hnone, by decide, by decide,
      fun page hpage hlt hend => hends ⟨page, hpage, Nat.le_of_lt hlt, hend⟩, .inr rfl,
      fun page hpage hlt hend =>
        (hends (listingEnds_of_isEndPage hpage (Nat.le_sub_one_of_lt hlt) hend)).elim,
      fun _ => ?_, fun hend => (hends ⟨lastPage, by decide, by decide, hend⟩).elim⟩
    rw [execute_eq, Session.runIn, Session.runFrom_bind, ← Session.runIn, hexplore,
      hsurveyed (runFrom_repositoriesFrom_of_not_listingEnds hhost hends)]
    rfl

/-- Two pages, of which the first one is answered at the second request only. -/
def flakySnapshot : Snapshot := {
  replies := [
    ("feed", [.answered 200 (Text.Utf8.encode "\x7b\"plugins\":\x7b\x7d\x7d")]),
    ("api/orgs/jenkinsci/repos?page=1&per_page=100", [.answered 503 [],
      .answered 200 (Text.Utf8.encode "[\x7b\"name\":\"foo\"\x7d]")]),
    ("api/orgs/jenkinsci/repos?page=2&per_page=100", [.answered 200 (Text.Utf8.encode
      "[\x7b\"name\":\"bar\"\x7d]")])] }

theorem execute_pages_listing_sample :
    let world := flakySnapshot.world
    ∃ report log asked last,
      (execute nearSettings {} none ⟨2011, 3, 3, by decide⟩).runIn world = (.ok report, log) ∧
      (∀ past, IsEndPage nearSettings world past 3) ∧ last ≤ 3 ∧
      let past := .request (.get "feed") :: asked
      EndsWith nearSettings world past last ∧ log = askedThrough nearSettings world past last ∧
      log.count (.request (.get (pageUrl nearSettings 1))) = 2 := by
  intro world
  have hbody : (Session.fetch nearSettings.feed.url).runIn world
      = (some "\x7b\"plugins\":\x7b\x7d\x7d", [.request (.get "feed")]) := by decide +kernel
  have hfeed : Feed.read? "\x7b\"plugins\":\x7b\x7d\x7d" = some [] := by decide +kernel
  have hcount : ((execute nearSettings {} none ⟨2011, 3, 3, by decide⟩).runIn world).2.count
      (.request (.get (pageUrl nearSettings 1))) = 2 := by decide +kernel
  have hend : ∀ past, IsEndPage nearSettings world past 3 :=
    isEndPage_snapshot (by decide +kernel)
  obtain ⟨asked, last, -, -, -, -, -, hends, -, hreport⟩ :=
    execute_pages_listing {} none ⟨2011, 3, 3, by decide⟩ hbody hfeed
  obtain ⟨hle, hlast⟩ := hends 3 (by decide) (by decide) hend
  obtain ⟨report, _, _, hexecute, -⟩ := hreport hlast
  rw [hexecute] at hcount
  exact ⟨report, _, asked, last, hexecute, hend, hle, hlast, rfl, hcount⟩

end ReleaseGap.Run
