import ReleaseGap.CommandLine.Program
import ReleaseGap.Proofs.Run.Rows
import ReleaseGap.Proofs.Settings.Nearest
import ReleaseGap.Proofs.Text.Utf8

/-!
# What comes of making a report

The program that makes a report prints all of it or nothing, unless the system breaks its output
off.  Otherwise it fails only if it finds settings that it cannot use, if it cannot read the tables,
if the system gives it nothing to ask with, or if the feed cannot be had; then it has asked for the
feed at most, and for that once.  Nothing that the git host or `svn` answers makes it fail, but
where the listing of the organization's repositories has no end, the program has none either.
-/
namespace ReleaseGap

namespace Settings

/-- Whether the nearest settings file cannot be read or says what settings cannot be. -/
def IsFaulty (files : Files.Tree) (start : String) : Prop :=
  ∃ path, (candidates start).find? files.exists? = some path ∧
    ((∃ e, files.readText path = .error e) ∨
      ∃ content, files.readText path = .ok content ∧ ofText? content = none)

theorem exists_error_locateOrDefault_iff {files : Files.Tree} {start : String} :
    (∃ e, locateOrDefault files start = .error e) ↔ IsFaulty files start := by
  cases hpath : (candidates start).find? files.exists? with
  | none =>
    have hdefault : locateOrDefault files start = .ok {} := by
      rw [locateOrDefault, locate, hpath]
    simp [IsFaulty, hpath, hdefault]
  | some path =>
    rw [locateOrDefault_of_find? hpath, load_of_exists? (List.find?_some hpath)]
    simp only [IsFaulty, hpath, Option.some.injEq, exists_eq_left']
    cases files.readText path with
    | error e => simp
    | ok content => cases hcontent : ofText? content <;> simp [hcontent]

end Settings

namespace Run

variable {settings : Settings} {world : World}

theorem runIn_fetch (url : String) (world : World) :
    (Session.fetch url).runIn world
      = ((world.reply [] (.get url)).text?, [.request (.get url)]) := rfl

/-- Without a feed nothing else is asked. -/
theorem exists_runIn_execute_of_feed_eq_none (tables : Overrides.Tables)
    (limit : Option String) (today : Calendar.Date)
    (h : (world.reply [] (.get settings.feed.url)).text?.bind Feed.read? = none) :
    ∃ e, (execute settings tables limit today).runIn world
      = (.error (.failed e), [.request (.get settings.feed.url)]) := by
  have hfetch := runIn_fetch settings.feed.url world
  rw [Session.runIn] at hfetch
  rw [execute, Session.runIn, Session.runFrom_bind, hfetch]
  cases hbody : (world.reply [] (.get settings.feed.url)).text? with
  | none => exact ⟨_, rfl⟩
  | some body =>
    rw [hbody, Option.bind_some] at h
    simp only [h]
    exact ⟨_, rfl⟩

end Run

namespace CommandLine

/-- Whether the system takes less of a text than all of it. -/
def Refusals.CutsOff (refusals : Refusals) (text : String) : Prop :=
  ∃ room e, refusals.output = some (room, e) ∧ room < (Text.Utf8.encode text).length

namespace Surroundings

/-- Whether the settings cannot be looked for, cannot be read or are malformed. -/
def HasFaultySettings (s : Surroundings) : Prop :=
  s.refusals.directory.isSome = true ∨ Settings.IsFaulty s.files s.files.currentPath

/-- Whether the input cannot be read as tables. -/
def HasFaultyTables (s : Surroundings) : Prop :=
  ∃ e, Overrides.Tables.readFrom s.input = .error e

/-- Whether the system gives no runtime or no client to ask with. -/
def LacksMeans (s : Surroundings) : Prop :=
  s.refusals.runtime.isSome = true ∨ s.refusals.client.isSome = true

/-- Whether the settings in force lead to no feed in a world. -/
def LacksFeed (s : Surroundings) (world : World) : Prop :=
  ∃ settings, s.settings = .ok settings ∧
    (world.reply [] (.get settings.feed.url)).text?.bind Feed.read? = none

variable {s : Surroundings}

theorem exists_error_settings_iff : (∃ e, s.settings = .error e) ↔ s.HasFaultySettings := by
  rw [HasFaultySettings, settings]
  cases s.refusals.directory with
  | some e => simp
  | none => simp [Settings.exists_error_locateOrDefault_iff]

theorem not_hasFaultySettings {settings : Settings} (h : s.settings = .ok settings) :
    ¬ s.HasFaultySettings := by
  intro hfaulty
  obtain ⟨e, herror⟩ := exists_error_settings_iff.2 hfaulty
  rw [h] at herror
  cases herror

theorem not_hasFaultyTables {read : Overrides.Tables × List UInt8}
    (h : Overrides.Tables.readFrom s.input = .ok read) : ¬ s.HasFaultyTables := by
  rintro ⟨e, herror⟩
  rw [h] at herror
  cases herror

/-- What there is before the first question: settings, tables, and the means to ask. -/
structure Provides (s : Surroundings) (settings : Settings) (tables : Overrides.Tables) : Prop where
  settings : s.settings = .ok settings
  tables : ∃ rest, Overrides.Tables.readFrom s.input = .ok (tables, rest)
  means : ¬ s.LacksMeans

namespace Provides

variable {settings : Settings} {tables : Overrides.Tables}

theorem unique (h : s.Provides settings tables) {settings' : Settings}
    {tables' : Overrides.Tables} (h' : s.Provides settings' tables') :
    settings = settings' ∧ tables = tables' := by
  obtain ⟨rest, htables⟩ := h.tables
  obtain ⟨rest', htables'⟩ := h'.tables
  exact ⟨Except.ok.inj (h.settings.symm.trans h'.settings),
    (Prod.mk.inj (Except.ok.inj (htables.symm.trans htables'))).1⟩

theorem not_lacking (h : s.Provides settings tables) :
    ¬ (s.HasFaultySettings ∨ s.HasFaultyTables ∨ s.LacksMeans) := by
  rintro (hfaulty | hfaulty | hlacks)
  · exact not_hasFaultySettings h.settings hfaulty
  · obtain ⟨rest, htables⟩ := h.tables
    exact not_hasFaultyTables htables hfaulty
  · exact h.means hlacks

theorem lacksFeed_iff (h : s.Provides settings tables) {world : World} :
    s.LacksFeed world ↔ (world.reply [] (.get settings.feed.url)).text?.bind Feed.read? = none := by
  constructor
  · rintro ⟨_, hother, hnone⟩
    obtain rfl := Except.ok.inj (h.settings.symm.trans hother)
    exact hnone
  · exact fun hnone => ⟨settings, h.settings, hnone⟩

end Provides

end Surroundings

namespace Program

/-- The ways in which making a report ends, each with all that was asked. -/
inductive Ends (s : Surroundings) (limit : Option String) (today : Calendar.Date) (world : World) :
    Ending → List Question → Prop
  | lacking {failure : Failure}
      (h : s.HasFaultySettings ∨ s.HasFaultyTables ∨ s.LacksMeans) :
      Ends s limit today world (.failed failure) []
  | feed {settings : Settings} {tables : Overrides.Tables} {e : RunError}
      (hprovides : s.Provides settings tables)
      (h : (world.reply [] (.get settings.feed.url)).text?.bind Feed.read? = none) :
      Ends s limit today world (.failed (.run e)) [.request (.get settings.feed.url)]
  | reported {settings : Settings} {tables : Overrides.Tables} {feed : List (String × FeedEntry)}
      {report : Report} {log : List Question} (hprovides : s.Provides settings tables)
      (hfeed : (world.reply [] (.get settings.feed.url)).text?.bind Feed.read? = some feed)
      (h : (Run.execute settings tables limit today).runIn world = (.ok report, log)) :
      Ends s limit today world (.reported report settings.report) log
  | outOfPages {settings : Settings} {tables : Overrides.Tables}
      {feed : List (String × FeedEntry)} {log : List Question}
      (hprovides : s.Provides settings tables)
      (hfeed : (world.reply [] (.get settings.feed.url)).text?.bind Feed.read? = some feed)
      (h : (Run.execute settings tables limit today).runIn world = (.error .outOfPages, log)) :
      Ends s limit today world .outOfPages log

/-- Whether a report is made, with all these questions asked, that is printed as a text. -/
def Makes (s : Surroundings) (limit : Option String) (today : Calendar.Date) (world : World)
    (generatedAt : String) (elapsedSeconds : Nat) (log : List Question) (text : String) : Prop :=
  ∃ settings tables report, s.Provides settings tables ∧
    (Run.execute settings tables limit today).runIn world = (.ok report, log) ∧
    text = report.render settings.report ++ Report.footer generatedAt elapsedSeconds

theorem makes_iff {s : Surroundings} {settings : Settings} {tables : Overrides.Tables}
    (h : s.Provides settings tables) {limit : Option String} {today : Calendar.Date}
    {world : World} {generatedAt : String} {elapsedSeconds : Nat} {log : List Question}
    {text : String} :
    Makes s limit today world generatedAt elapsedSeconds log text ↔ ∃ report,
      (Run.execute settings tables limit today).runIn world = (.ok report, log) ∧
      text = report.render settings.report ++ Report.footer generatedAt elapsedSeconds := by
  constructor
  · rintro ⟨settings', tables', report, hprovides, hexecute, htext⟩
    obtain ⟨rfl, rfl⟩ := h.unique hprovides
    exact ⟨report, hexecute, htext⟩
  · rintro ⟨report, hexecute, htext⟩
    exact ⟨settings, tables, report, h, hexecute, htext⟩

/-- A report is made only where there is a feed and nothing is lacking. -/
theorem Makes.not_lacking {s : Surroundings} {limit : Option String} {today : Calendar.Date}
    {world : World} {generatedAt : String} {elapsedSeconds : Nat} {log : List Question}
    {text : String} (h : Makes s limit today world generatedAt elapsedSeconds log text) :
    ¬ ((s.HasFaultySettings ∨ s.HasFaultyTables ∨ s.LacksMeans) ∨ s.LacksFeed world) := by
  obtain ⟨settings, tables, report, hprovides, hexecute, -⟩ := h
  rintro (hlacking | hlacks)
  · exact hprovides.not_lacking hlacking
  · obtain ⟨e, hfailed⟩ := Run.exists_runIn_execute_of_feed_eq_none tables limit today
      (hprovides.lacksFeed_iff.1 hlacks)
    rw [hfailed] at hexecute
    cases hexecute

/-- A text that is taken as a whole is printed, and leaves the ending as it is. -/
theorem print_of_not_cutsOff {p : Program} {refusals : Refusals} {generatedAt : String}
    {elapsedSeconds : Nat} {ending : Ending}
    (h : ¬ refusals.CutsOff (p.output generatedAt elapsedSeconds ending)) :
    p.print refusals generatedAt elapsedSeconds ending
      = (ending, Text.Utf8.encode (p.output generatedAt elapsedSeconds ending)) := by
  rw [print]
  cases houtput : refusals.output with
  | none => rfl
  | some taken =>
    obtain ⟨room, e⟩ := taken
    exact if_pos (Nat.le_of_not_lt fun hlt => h ⟨room, e, houtput, hlt⟩)

/-- A program that has nothing to print ends as it does. -/
theorem print_of_output_eq_empty {p : Program} (refusals : Refusals) {generatedAt : String}
    {elapsedSeconds : Nat} {ending : Ending} (h : p.output generatedAt elapsedSeconds ending = "") :
    p.print refusals generatedAt elapsedSeconds ending = (ending, []) := by
  have hempty : Text.Utf8.encode "" = [] := by decide +kernel
  have hwhole : ¬ refusals.CutsOff (p.output generatedAt elapsedSeconds ending) := by
    rintro ⟨room, e, -, hlt⟩
    rw [h, hempty] at hlt
    exact Nat.not_lt_zero room hlt
  rw [print_of_not_cutsOff hwhole, h, hempty]

/-- A report that is cut off is printed so far, and the program fails. -/
theorem print_reported_of_cutsOff {p : Program} {refusals : Refusals} {generatedAt : String}
    {elapsedSeconds : Nat} {report : Report} {wording : Settings.Wording}
    (h : refusals.CutsOff (p.output generatedAt elapsedSeconds (.reported report wording))) :
    ∃ room e, refusals.output = some (room, e) ∧
      p.print refusals generatedAt elapsedSeconds (.reported report wording)
        = (.failed (.output e), (Text.Utf8.encode
            (p.output generatedAt elapsedSeconds (.reported report wording))).take room) := by
  obtain ⟨room, e, houtput, hlt⟩ := h
  refine ⟨room, e, houtput, ?_⟩
  rw [print, houtput]
  exact if_neg (Nat.not_le_of_lt hlt)

namespace Ends

variable {s : Surroundings} {limit : Option String} {today : Calendar.Date} {world : World}
  {ending : Ending} {log : List Question} {generatedAt : String} {elapsedSeconds : Nat}

/-- A report is printed as a whole or cut off, and nothing is printed unless there is a report. -/
theorem printed (h : Ends s limit today world ending log) (generatedAt : String)
    (elapsedSeconds : Nat) :
    let printed := Program.report.print s.refusals generatedAt elapsedSeconds ending
    let makes := Makes s limit today world generatedAt elapsedSeconds log
    (printed.1.code = some 0 ∧ ∃ text, makes text ∧ printed.2 = Text.Utf8.encode text) ∨
      (printed.1.code = some 1 ∧ (∀ text, ¬ makes text) ∧ printed.2 = []) ∨
      (printed.1.code = some 1 ∧ ∃ text room e, makes text ∧ s.refusals.CutsOff text ∧
        s.refusals.output = some (room, e) ∧ printed.2 = (Text.Utf8.encode text).take room) ∨
      (printed.1.code = none ∧ printed.2 = []) := by
  intro printed makes
  have hnothing : Program.report.output generatedAt elapsedSeconds ending = "" →
      printed = (ending, []) := print_of_output_eq_empty s.refusals
  cases h with
  | lacking h =>
    rw [hnothing rfl]
    exact .inr (.inl ⟨rfl, fun text hmakes => hmakes.not_lacking (.inl h), rfl⟩)
  | feed hprovides h =>
    rw [hnothing rfl]
    exact .inr (.inl ⟨rfl, fun text hmakes =>
      hmakes.not_lacking (.inr (hprovides.lacksFeed_iff.2 h)), rfl⟩)
  | @reported settings tables feed report log hprovides hfeed h =>
    have hmakes : makes (Program.report.output generatedAt elapsedSeconds
        (.reported report settings.report)) := (makes_iff hprovides).2 ⟨report, h, rfl⟩
    by_cases hcut : s.refusals.CutsOff
        (Program.report.output generatedAt elapsedSeconds (.reported report settings.report))
    · obtain ⟨room, e, houtput, hprinted⟩ := print_reported_of_cutsOff hcut
      rw [show printed = _ from hprinted]
      exact .inr (.inr (.inl ⟨rfl, _, room, e, hmakes, hcut, houtput, rfl⟩))
    · rw [show printed = _ from print_of_not_cutsOff hcut]
      exact .inl ⟨rfl, _, hmakes, rfl⟩
  | outOfPages hprovides hfeed h =>
    rw [hnothing rfl]
    exact .inr (.inr (.inr ⟨rfl, rfl⟩))

end Ends

end Program
end CommandLine
end ReleaseGap
