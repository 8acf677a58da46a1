import ReleaseGap.Proofs.Run.Exposed
import ReleaseGap.Proofs.Run.Isolation

/-!
# Runs with a limit

Where every question always gets the same answer, a run with a limit has the items of the whole run
that are within the limit and those that the limit exposes.  The rows within the limit are the same
as well, but for those whose entry of the operator is also looked up for an item that only one of
the runs has.
-/
namespace ReleaseGap.Run

variable {tables : Overrides.Tables} {limit : String} {reply : Request → Reply}
  {outcome : Call → Outcome}

/-- The loss of a key that items look up only in vain changes none of their rows. -/
theorem rowsFrom_erase_of_vain (run : Run) (known : Overrides.Table) {key : String}
    (items : List Item) (h : ∀ item ∈ items, item.key = key → known.get? key = none) :
    rowsFrom run (known.erase key) items = rowsFrom run known items := by
  by_cases hkey : known.get? key = none
  · rw [Overrides.Table.erase_eq_self hkey]
  · exact rowsFrom_erase run known fun item hitem heq => hkey (h item hitem heq)

/-- The rows of items on two sides are those of either side, unless an entry is looked up on both.
-/
theorem rowsFrom_perm_of_sides (run : Run) (side : Item → Bool) (known : Overrides.Table)
    (items : List Item)
    (h : ∀ i ∈ items.filter side, ∀ j ∈ items.filter (!side ·), i.key = j.key →
      known.get? i.key = none) :
    (rowsFrom run known items).Perm (rowsFrom run known (items.filter side)
      ++ rowsFrom run known (items.filter (!side ·))) := by
  induction items generalizing known with
  | nil => exact .refl _
  | cons item items ih =>
    have herase : ∀ key, known.get? key = none → (known.erase item.key).get? key = none := by
      intro key hkey
      rw [Overrides.Table.get?_erase, hkey, ite_self]
    cases hside : side item with
    | true =>
      rw [List.filter_cons_of_pos hside, List.filter_cons_of_neg (by simp [hside])] at h ⊢
      have hrest := ih (known.erase item.key) fun i hi j hj heq =>
        herase _ (h i (List.mem_cons_of_mem _ hi) j hj heq)
      rw [rowsFrom_erase_of_vain run known (items.filter (!side ·)) fun j hj heq =>
        h item List.mem_cons_self j hj heq.symm] at hrest
      exact hrest.cons _
    | false =>
      rw [List.filter_cons_of_neg (by simp [hside]), List.filter_cons_of_pos (by simp [hside])]
        at h ⊢
      have hrest := ih (known.erase item.key) fun i hi j hj heq =>
        herase _ (h i hi j (List.mem_cons_of_mem _ hj) heq)
      rw [rowsFrom_erase_of_vain run known (items.filter side) fun i hi heq =>
        heq ▸ h i hi item List.mem_cons_self heq] at hrest
      exact (hrest.cons _).trans List.perm_middle.symm

/-- Whether an item looks up an entry of the operator that some items and some others look up. -/
def isContested (known : Overrides.Table) (items others : List Item) (item : Item) : Bool :=
  (known.get? item.key).isSome && items.any (·.key == item.key) && others.any (·.key == item.key)

theorem isContested_congr (known : Overrides.Table) (items others : List Item) {i j : Item}
    (h : i.key = j.key) : isContested known items others i = isContested known items others j := by
  rw [isContested, isContested, h]

/-- Items of two kinds that look up one entry contest it. -/
theorem get?_eq_none_of_uncontested {known : Overrides.Table} {items others : List Item}
    {i j : Item} (hi : i ∈ items) (hj : j ∈ others) (hkey : i.key = j.key)
    (h : isContested known items others i = false) : known.get? i.key = none := by
  have hitems : items.any (·.key == i.key) = true := List.any_eq_true.2 ⟨i, hi, beq_self_eq_true _⟩
  have hothers : others.any (·.key == i.key) = true :=
    List.any_eq_true.2 ⟨j, hj, beq_iff_eq.2 hkey.symm⟩
  simpa [isContested, hitems, hothers] using h

/-- The rows of items on two sides are those of either side, but for those of contested entries. -/
theorem rowsFrom_perm_uncontested (run : Run) (known : Overrides.Table) (side : Item → Bool)
    {listed others : List Item} (h : ∀ j ∈ listed.filter (!side ·), j ∈ others) :
    let contested := isContested known (listed.filter side) others
    (rowsFrom run known listed).Perm
      (rowsFrom run known ((listed.filter side).filter (!contested ·))
        ++ rowsFrom run known ((listed.filter (!side ·)).filter (!contested ·))
        ++ rowsFrom run known (listed.filter contested)) := by
  intro contested
  have hcontested : (rowsFrom run known listed).Perm
      (rowsFrom run known (listed.filter (!contested ·))
        ++ rowsFrom run known (listed.filter contested)) := by
    have hsides := rowsFrom_perm_of_sides run (!contested ·) known listed
    simp only [Bool.not_not] at hsides
    refine hsides fun i hi j hj heq => ?_
    have hno : contested i = false := by simpa using (List.mem_filter.1 hi).2
    have hyes : contested j = true := (List.mem_filter.1 hj).2
    exact absurd (hno.symm.trans ((isContested_congr known _ others heq).trans hyes))
      Bool.false_ne_true
  refine hcontested.trans (List.Perm.append_right _ ?_)
  have hsides := rowsFrom_perm_of_sides run side known (listed.filter (!contested ·))
  rw [List.filter_comm, List.filter_comm (!side ·)] at hsides
  refine hsides fun i hi j hj heq => ?_
  obtain ⟨hi, hno⟩ := List.mem_filter.1 hi
  have hj : j ∈ others := h j (List.mem_filter.1 hj).1
  exact get?_eq_none_of_uncontested hi hj heq (by simpa using hno)

/-- The rows of a whole run are those within a limit and those beyond it, but for the rows whose
entries are contested. -/
theorem rowsFrom_allItems_perm (run : Run) (known : Overrides.Table) (tables : Overrides.Tables)
    (limit : String) (s : Survey) (elsewhere : List Item) :
    let within := itemsWithin tables limit s
    let beyond := itemsBeyond tables limit s
    let contested := isContested known within (beyond ++ elsewhere)
    (rowsFrom run known (allItems tables s)).Perm
      (rowsFrom run known (within.filter (!contested ·))
        ++ rowsFrom run known (beyond.filter (!contested ·))
        ++ rowsFrom run known ((allItems tables s).filter contested)) :=
  rowsFrom_perm_uncontested run known (Item.isWithin limit) fun _ h =>
    List.mem_append_left elsewhere h

/-- The rows of a run with a limit are those of the whole run within it and those that it exposes,
but for the rows whose entries are contested. -/
theorem rowsFrom_limitedItems_perm (run : Run) (known : Overrides.Table) (tables : Overrides.Tables)
    (limit : String) (s : Survey) (elsewhere : List Item) :
    let within := itemsWithin tables limit s
    let exposed := exposedItems tables limit within (itemsBeyond tables limit s) s
    let contested := isContested known within (elsewhere ++ exposed)
    (rowsFrom run known (limitedItems tables limit s)).Perm
      (rowsFrom run known (within.filter (!contested ·))
        ++ rowsFrom run known (exposed.filter (!contested ·))
        ++ rowsFrom run known ((limitedItems tables limit s).filter contested)) := by
  intro within exposed contested
  let side := fun item => !isCovered (allItems tables s) item
  have hwithin : (limitedItems tables limit s).filter side = within :=
    filter_limitedItems_uncovered tables limit s
  have hexposed : (limitedItems tables limit s).filter (!side ·) = exposed := by
    simp only [side, Bool.not_not]
    exact filter_limitedItems_covered tables limit s
  have hothers : ∀ j ∈ (limitedItems tables limit s).filter (!side ·), j ∈ elsewhere ++ exposed :=
    fun j h => List.mem_append_right elsewhere (hexposed ▸ h)
  have hsides := rowsFrom_perm_uncontested run known side hothers
  rw [hwithin, hexposed] at hsides
  exact hsides

/-- The plugins of a run with a limit are those of the whole run whose ids are within it. -/
theorem pluginsOf_limit (feed : List (String × FeedEntry)) :
    pluginsOf (startContext tables (some limit)) feed
      = (pluginsOf (startContext tables none) feed).filter
          fun plugin => Text.startsWith plugin.id limit := by
  rw [pluginsOf, pluginsOf, List.filter_filterMap]
  refine List.filterMap_congr fun e _ => ?_
  have hwhole : pluginOf? (startContext tables none) e = Plugin.ofFeed? e.1 e.2 tables := by
    rw [pluginOf?, admits_start]
    rfl
  have hlimited : pluginOf? (startContext tables (some limit)) e
      = if Text.startsWith e.1 limit then Plugin.ofFeed? e.1 e.2 tables else none := by
    rw [pluginOf?, admits_start]
    rfl
  rw [hwhole, hlimited]
  cases hplugin : Plugin.ofFeed? e.1 e.2 tables with
  | none => simp
  | some plugin => simp [Option.filter, Plugin.id_of_ofFeed? hplugin]

/-- A run with a limit finds what the whole run finds, but for the plugins beyond the limit. -/
theorem result_survey_limit (run : Run) (feed : List (String × FeedEntry)) :
    (run.survey (pluginsOf (startContext tables (some limit)) feed)).result reply outcome
      = ((run.survey (pluginsOf (startContext tables none) feed)).result reply outcome).map
          (·.within limit) := by
  rw [result_survey, result_survey, Option.map_map, pluginsOf_limit]
  congr 1
  funext listed
  rw [Function.comp_apply, Survey.within, surveyIn, surveyIn, List.filter_map]
  rfl

/-- What a run finds where every question always gets the same answer. -/
theorem result_explore (settings : Settings) (tables : Overrides.Tables) (limit : Option String)
    (today : Calendar.Date) :
    (explore settings tables limit today).result reply outcome =
      match (reply (.get settings.feed.url)).text? with
      | none => .error (.failed (.feedUnavailable settings.feed.url))
      | some body =>
        match Feed.read? body with
        | none => .error (.failed .feedMalformed)
        | some feed =>
          let run : Run := ⟨settings, today, .ofSettings settings.github tables.tagRules,
            (Svn.Backend.connect settings.svn).result reply outcome⟩
          orOutOfPages (((run.survey (pluginsOf (startContext tables limit) feed)).result reply
            outcome).map (run, ·)) := by
  rw [explore, Session.result_bind]
  have hfetch : (Session.fetch settings.feed.url).result reply outcome
      = (reply (.get settings.feed.url)).text? := rfl
  rw [hfetch]
  cases (reply (.get settings.feed.url)).text? with
  | none => rfl
  | some body =>
    dsimp only
    cases Feed.read? body with
    | none => rfl
    | some feed => simp only [Session.result_bind, Session.result_pure]

/-- A run with a limit and the whole run fail alike, or find the same within the limit. -/
theorem result_explore_limit (settings : Settings) (tables : Overrides.Tables) (limit : String)
    (today : Calendar.Date) (reply : Request → Reply) (outcome : Call → Outcome) :
    (∃ e, (explore settings tables none today).result reply outcome = .error e ∧
      (explore settings tables (some limit) today).result reply outcome = .error e) ∨
    ∃ run s, (explore settings tables none today).result reply outcome = .ok (run, s) ∧
      (explore settings tables (some limit) today).result reply outcome
        = .ok (run, s.within limit) := by
  rw [result_explore, result_explore]
  cases (reply (.get settings.feed.url)).text? with
  | none => exact .inl ⟨_, rfl, rfl⟩
  | some body =>
    dsimp only
    cases Feed.read? body with
    | none => exact .inl ⟨_, rfl, rfl⟩
    | some feed =>
      dsimp only
      rw [result_survey_limit]
      cases (Run.survey _ (pluginsOf (startContext tables none) feed)).result reply outcome with
      | none => exact .inl ⟨_, rfl, rfl⟩
      | some s => exact .inr ⟨_, s, rfl, rfl⟩

/-- Where every question always gets the same answer, the report is made of what was found. -/
theorem fst_execute_constant (settings : Settings) (tables : Overrides.Tables)
    (today : Calendar.Date) (reply : Request → Reply) (outcome : Call → Outcome)
    (limit : Option String) :
    ((execute settings tables limit today).runIn (.constant reply outcome)).1
      = ((explore settings tables limit today).result reply outcome).map
          fun f => f.1.reportOf (startContext tables limit) f.2 := by
  rw [Session.runIn, Session.fst_runFrom_constant, execute_eq, Session.result_bind,
    Session.result_pure]

/-- Where every question always gets the same answer, a run with a limit and the whole run fail
alike, or both find the same.  Then the run with a limit has the items of the whole run that are
within the limit, and besides exactly those that the limit exposes.  The rows of the items within
the limit are the same, but for those of entries that items which only one of the runs has contest.
-/
theorem execute_limit (settings : Settings) (tables : Overrides.Tables) (limit : String)
    (today : Calendar.Date) (reply : Request → Reply) (outcome : Call → Outcome) :
    let world := World.constant reply outcome
    let whole := ((execute settings tables none today).runIn world).1
    let limited := ((execute settings tables (some limit) today).runIn world).1
    (∃ e, whole = .error e ∧ limited = .error e) ∨
    ∃ run s s' report report',
      ((explore settings tables none today).runIn world).1 = .ok (run, s) ∧
      ((explore settings tables (some limit) today).runIn world).1 = .ok (run, s') ∧
      whole = .ok report ∧ limited = .ok report' ∧
      let known := tables.knownRevisions
      let listed := items (startContext tables none) s
      let listed' := items (startContext tables (some limit)) s'
      let within := listed.filter (Item.isWithin limit)
      let beyond := listed.filter (!Item.isWithin limit ·)
      let exposed := exposedItems tables limit within beyond s
      report.rows.Perm (rowsFrom run known listed) ∧
      report'.rows.Perm (rowsFrom run known listed') ∧
      listed'.Perm (within ++ exposed) ∧
      let contested := isContested known within (beyond ++ exposed)
      report.rows.Perm (rowsFrom run known (within.filter (!contested ·))
        ++ rowsFrom run known (beyond.filter (!contested ·))
        ++ rowsFrom run known (listed.filter contested)) ∧
      report'.rows.Perm (rowsFrom run known (within.filter (!contested ·))
        ++ rowsFrom run known (exposed.filter (!contested ·))
        ++ rowsFrom run known (listed'.filter contested)) := by
  intro world whole limited
  have hexplore : ∀ l, ((explore settings tables l today).runIn world).1
      = (explore settings tables l today).result reply outcome := fun l =>
    Session.fst_runFrom_constant _ _
  have hexecute := fst_execute_constant settings tables today reply outcome
  rcases result_explore_limit settings tables limit today reply outcome with
    ⟨e, hwhole, hlimited⟩ | ⟨run, s, hwhole, hlimited⟩
  · refine .inl ⟨e, ?_, ?_⟩
    · rw [show whole = _ from hexecute none, hwhole]
      rfl
    · rw [show limited = _ from hexecute (some limit), hlimited]
      rfl
  · have hrows := run.rows_reportOf_perm (startContext tables none) s
    have hrows' := run.rows_reportOf_perm (startContext tables (some limit)) (s.within limit)
    refine .inr ⟨run, s, s.within limit, _, _, (hexplore none).trans hwhole,
      (hexplore (some limit)).trans hlimited, ?whole, ?limited, hrows, hrows', ?items, ?rows,
      ?limitedRows⟩
    case whole =>
      rw [show whole = _ from hexecute none, hwhole]
      rfl
    case limited =>
      rw [show limited = _ from hexecute (some limit), hlimited]
      rfl
    case items => exact limitedItems_perm tables limit s
    case rows =>
      exact hrows.trans (rowsFrom_allItems_perm run tables.knownRevisions tables limit s _)
    case limitedRows =>
      exact hrows'.trans (rowsFrom_limitedItems_perm run tables.knownRevisions tables limit s _)

/-- A feed with one plugin in svn, and an organization with one repository. -/
def barReply (r : Request) : Reply :=
  if r = .get "feed" then .answered 200
    (Text.Utf8.encode "\x7b\"plugins\":\x7b\"x\":\x7b\"version\":\"1\"\x7d\x7d\x7d")
  else if r = .get "api/orgs/jenkinsci/repos?page=1&per_page=100" then
    .answered 200 (Text.Utf8.encode "[\x7b\"name\":\"bar\"\x7d]")
  else .answered 404 []

/-- One directory in svn, and no tags. -/
def barOutcome (c : Call) : Outcome :=
  if c.arguments = ["--non-interactive", "ls", "https://svn.jenkins-ci.org/trunk/hudson/plugins"]
  then .exited 0 (Text.Utf8.encode "bar/\n") []
  else .exited 1 [] []

/-- The plugin lives in the directory. -/
def remappedToBar : Overrides.Tables := { repositories := .ofText "x|bar" }

/-- The limit exposes the directory of a plugin beyond it. -/
theorem execute_limit_sample :
    let execution (limit : Option String) :=
      ((execute nearSettings remappedToBar limit ⟨2011, 3, 3, by decide⟩).runIn
        (.constant barReply barOutcome)).1
    ∃ report report' run beyond,
      execution none = .ok report ∧ execution (some "bar") = .ok report' ∧
      report.rows.Perm (rowsFrom run {} [.repository "bar"] ++ rowsFrom run {} beyond) ∧
      report'.rows.Perm
        (rowsFrom run {} [.repository "bar"] ++ rowsFrom run {} [.directory "bar"]) := by
  intro execution
  have hview : ((explore nearSettings remappedToBar none ⟨2011, 3, 3, by decide⟩).runIn
      (.constant barReply barOutcome)).1.toOption.map (fun f =>
        (itemsWithin remappedToBar "bar" f.2, exposedItems remappedToBar "bar"
          (itemsWithin remappedToBar "bar" f.2) (itemsBeyond remappedToBar "bar" f.2) f.2))
      = some ([.repository "bar"], [.directory "bar"]) := by decide +kernel
  obtain ⟨⟨run, s⟩, log, hexplore, hitems⟩ := exists_ok_of_view hview
  obtain ⟨hwithin, hexposed⟩ := Prod.mk.inj hitems
  have hfound := congrArg Prod.fst hexplore
  rcases execute_limit nearSettings remappedToBar "bar" ⟨2011, 3, 3, by decide⟩ barReply
    barOutcome with ⟨e, hwhole, -⟩ |
      ⟨_, _, _, report, report', hexplore', -, hwhole, hlimited, -, -, -, hrows⟩
  · rw [congrArg Prod.fst (runIn_execute remappedToBar none hexplore)] at hwhole
    cases hwhole
  · obtain ⟨rfl, rfl⟩ : (run, s) = (_, _) := Except.ok.inj (hfound.symm.trans hexplore')
    rw [← allItems, ← itemsWithin, ← itemsBeyond, hexposed, hwithin] at hrows
    have huncontested : ∀ others,
        isContested remappedToBar.knownRevisions [.repository "bar"] others = fun _ => false :=
      fun _ => rfl
    simp only [huncontested, Bool.not_false, List.filter_true, List.filter_false, rowsFrom,
      List.append_nil] at hrows
    exact ⟨report, report', run, _, hwhole, hlimited, hrows.1, hrows.2⟩

def barMovedAway : Overrides.Tables :=
  { remappedToBar with knownRevisions := .ofText "bar-unreleased|moved" }

theorem exists_execute_barMovedAway (limit : Option String) (rows : List Report.Row)
    (h : ((explore nearSettings barMovedAway limit ⟨2011, 3, 3, by decide⟩).runIn
      (.constant barReply barOutcome)).1.toOption.map
        (fun f => (f.1.assemble (startContext barMovedAway limit) f.2).report.rows) = some rows) :
    ∃ report, ((execute nearSettings barMovedAway limit ⟨2011, 3, 3, by decide⟩).runIn
        (.constant barReply barOutcome)).1 = .ok report ∧ report.rows.Perm rows := by
  obtain ⟨⟨run, s⟩, log, hexplore, rfl⟩ := exists_ok_of_view h
  exact ⟨_, congrArg Prod.fst (runIn_execute barMovedAway limit hexplore),
    Report.rows_sort_perm _⟩

/-- No row of a run with a limit need be one of the whole run: here the limit exposes a directory,
which takes the operator's label from the repository of its name. -/
theorem execute_limit_changes_rows :
    let execution (limit : Option String) :=
      ((execute nearSettings barMovedAway limit ⟨2011, 3, 3, by decide⟩).runIn
        (.constant barReply barOutcome)).1
    ∃ report report', execution none = .ok report ∧ execution (some "bar") = .ok report' ∧
      report.rows.Perm [
        ⟨"| x | | ? |  | ? (_Version mismatch: json has 1_)",
          "? (_Version mismatch: json has 1_)"⟩,
        Report.Row.unreleased "bar" "https://github.com/jenkinsci/bar" "moved"] ∧
      report'.rows.Perm [
        Report.Row.unreleased "bar"
          "http://fisheye.jenkins-ci.org/browse/Jenkins/trunk/hudson/plugins/bar" "moved",
        Report.Row.unreleased "bar" "https://github.com/jenkinsci/bar" "unreleased"] ∧
      ∀ row ∈ report'.rows, row ∉ report.rows := by
  intro execution
  obtain ⟨report, hexecute, hrows⟩ := exists_execute_barMovedAway none [
    ⟨"| x | | ? |  | ? (_Version mismatch: json has 1_)", "? (_Version mismatch: json has 1_)"⟩,
    Report.Row.unreleased "bar" "https://github.com/jenkinsci/bar" "moved"] (by decide +kernel)
  obtain ⟨report', hexecute', hrows'⟩ := exists_execute_barMovedAway (some "bar") [
    Report.Row.unreleased "bar"
      "http://fisheye.jenkins-ci.org/browse/Jenkins/trunk/hudson/plugins/bar" "moved",
    Report.Row.unreleased "bar" "https://github.com/jenkinsci/bar" "unreleased"]
    (by decide +kernel)
  refine ⟨report, report', hexecute, hexecute', hrows, hrows', fun row hrow => ?_⟩
  rw [hrows'.mem_iff] at hrow
  rw [hrows.mem_iff]
  revert row
  decide +kernel

end ReleaseGap.Run
