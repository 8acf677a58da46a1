import Mathlib.Data.List.Forall2
import ReleaseGap.Proofs.Run.Survey

/-!
# The items of a run

Each row of a report shows one item: a released plugin, or a directory or repository that was never
released.  Adding an item looks up one key in the table of known revisions, adds one row and marks
what the item covers; nothing else happens to the progress of a run.
-/
namespace ReleaseGap.Run

/-- What gets a row. -/
inductive Item where
  | released (plugin : Plugin) (collected : Collected)
  | directory (name : String)
  | repository (name : String)
deriving DecidableEq

/-- The address of a repository of the organization. -/
def repositoryUrl (run : Run) (name : String) : String :=
  let webUrl := Text.dropEndSlashes run.settings.github.webUrl
  s!"{webUrl}/{run.settings.github.organization}/{name}"

namespace Item

/-- The key that is looked up for an item. -/
def key : Item → String
  | .released plugin collected =>
    Classification.key plugin.id collected.version collected.count
  | .directory name => Context.unreleasedKey name
  | .repository name => Context.unreleasedKey name

/-- Marks what an item covers.  A directory covers the repository it would have moved to. -/
def mark (c : Context) : Item → Context
  | .released plugin _ => markCovered c plugin
  | .directory name => c.markGithub (name ++ "-plugin")
  | .repository _ => c

/-- Whether a row is that of an item, under the label that some state of the table gave. -/
def Shows (run : Run) : Item → Report.Row → Prop
  | .released plugin collected, row => ∃ known, row = Report.Row.released plugin collected
      (run.classifier.classify plugin.id plugin.version collected.version collected.revisions
        known).1 run.today
  | .directory name, row => ∃ label,
      row = Report.Row.unreleased name (run.svn.browseUrl name) label
  | .repository name, row => ∃ label,
      row = Report.Row.unreleased name (run.repositoryUrl name) label

@[simp] theorem mark_withKnown (c : Context) (known : Overrides.Table) (item : Item) :
    mark (c.withKnown known) item = (mark c item).withKnown known := by
  cases item with
  | released plugin collected =>
    simp only [mark, markCovered]
    cases plugin.kind <;> rfl
  | directory name => rfl
  | repository name => rfl

@[simp] theorem limit_mark (c : Context) (item : Item) : (mark c item).limit = c.limit := by
  cases item with
  | released plugin collected => exact limit_markCovered c plugin
  | directory name => rfl
  | repository name => rfl

end Item

/-- The context in which some items are marked. -/
def markAll (c : Context) (items : List Item) : Context := items.foldl Item.mark c

@[simp] theorem markAll_withKnown (c : Context) (known : Overrides.Table) (items : List Item) :
    markAll (c.withKnown known) items = (markAll c items).withKnown known := by
  induction items generalizing c with
  | nil => rfl
  | cons item items ih =>
    simp only [markAll, List.foldl_cons, Item.mark_withKnown] at ih ⊢
    exact ih _

@[simp] theorem limit_markAll (c : Context) (items : List Item) :
    (markAll c items).limit = c.limit := by
  induction items generalizing c with
  | nil => rfl
  | cons item items ih => exact (ih _).trans (Item.limit_mark c item)

/-- The label of a name that was never released, by the operator's entry for it. -/
def labelOf (known : Overrides.Table) (name : String) : String :=
  match known.get? (Context.unreleasedKey name) with
  | some (.text s) => if s = "" then unreleasedLabel else s
  | _ => unreleasedLabel

/-- The row of an item, by the table of known revisions as it is then. -/
def Item.row (run : Run) (known : Overrides.Table) : Item → Report.Row
  | .released plugin collected => Report.Row.released plugin collected
      (run.classifier.classify plugin.id plugin.version collected.version collected.revisions
        (collected.seed plugin.id known)).1 run.today
  | .directory name => Report.Row.unreleased name (run.svn.browseUrl name) (labelOf known name)
  | .repository name => Report.Row.unreleased name (run.repositoryUrl name) (labelOf known name)

/-- The rows of some items.  Each item takes its key out of the table. -/
def rowsFrom (run : Run) (known : Overrides.Table) : List Item → List Report.Row
  | [] => []
  | item :: items => item.row run known :: rowsFrom run (known.erase item.key) items

theorem Item.shows_row (run : Run) (known : Overrides.Table) (item : Item) :
    item.Shows run (item.row run known) := by
  cases item with
  | released plugin collected => exact ⟨_, rfl⟩
  | directory name => exact ⟨_, rfl⟩
  | repository name => exact ⟨_, rfl⟩

theorem shows_rowsFrom (run : Run) (known : Overrides.Table) (items : List Item) :
    List.Forall₂ (Item.Shows run) items (rowsFrom run known items) := by
  induction items generalizing known with
  | nil => exact .nil
  | cons item items ih => exact .cons (item.shows_row run known) (ih _)

theorem rowsFrom_append (run : Run) (known : Overrides.Table) (items items' : List Item) :
    rowsFrom run known (items ++ items')
      = rowsFrom run known items ++ rowsFrom run (known.eraseAll (items.map Item.key)) items' := by
  induction items generalizing known with
  | nil => rfl
  | cons item items ih =>
    simp only [List.cons_append, rowsFrom, ih, List.map_cons]
    rfl

/-- Of the table only what stands under its own key counts for an item. -/
theorem Item.row_erase (run : Run) (known : Overrides.Table) {key : String} {item : Item}
    (h : item.key ≠ key) : item.row run (known.erase key) = item.row run known := by
  have hlabel : ∀ name, Context.unreleasedKey name ≠ key →
      labelOf (known.erase key) name = labelOf known name := by
    intro name hname
    simp [labelOf, Overrides.Table.get?_erase, Ne.symm hname]
  cases item with
  | released plugin collected =>
    rw [row, row, Classifier.classify_seed_erase _ _ h]
  | directory name => rw [row, row, hlabel name h]
  | repository name => rw [row, row, hlabel name h]

theorem rowsFrom_erase (run : Run) (known : Overrides.Table) {key : String} {items : List Item}
    (h : ∀ item ∈ items, item.key ≠ key) :
    rowsFrom run (known.erase key) items = rowsFrom run known items := by
  induction items generalizing known with
  | nil => rfl
  | cons item items ih =>
    obtain ⟨hitem, hitems⟩ := List.forall_mem_cons.1 h
    rw [rowsFrom, rowsFrom, item.row_erase run known hitem, known.erase_comm, ih _ hitems]

/-- An entry shows in no row but those of the items with its key. -/
theorem getElem?_rowsFrom_erase (run : Run) (known : Overrides.Table) {key : String}
    {items : List Item} {i : Nat} {item : Item} (hitem : items[i]? = some item)
    (hkey : item.key ≠ key) :
    (rowsFrom run (known.erase key) items)[i]? = (rowsFrom run known items)[i]? := by
  induction items generalizing known i with
  | nil => rfl
  | cons first items ih =>
    rw [rowsFrom, rowsFrom]
    cases i with
    | zero =>
      obtain rfl : first = item := Option.some.inj hitem
      rw [List.getElem?_cons_zero, List.getElem?_cons_zero, first.row_erase run known hkey]
    | succ i =>
      rw [List.getElem?_cons_succ, List.getElem?_cons_succ, known.erase_comm]
      exact ih _ hitem

/-- An item with a key of its own adds its row and changes no other. -/
theorem rowsFrom_append_cons_perm (run : Run) (known : Overrides.Table) (items : List Item)
    {item : Item} {items' : List Item} (h : ∀ other ∈ items', other.key ≠ item.key) :
    (rowsFrom run known (items ++ item :: items')).Perm
      (item.row run (known.eraseAll (items.map Item.key)) ::
        rowsFrom run known (items ++ items')) := by
  rw [rowsFrom_append, rowsFrom_append, rowsFrom, rowsFrom_erase _ _ h]
  exact List.perm_middle

/-- Adds an item: its row, what it covers, and nothing else but the loss of its key. -/
def addItem (run : Run) (p : Progress) (item : Item) : Progress :=
  let known := p.context.tables.knownRevisions
  ⟨(item.mark p.context).withKnown (known.erase item.key), p.report.push (item.row run known)⟩

theorem context_foldl_addItem (run : Run) (p : Progress) (items : List Item) :
    (items.foldl run.addItem p).context = (markAll p.context items).withKnown
      (p.context.tables.knownRevisions.eraseAll (items.map Item.key)) := by
  induction items generalizing p with
  | nil => rfl
  | cons item items ih =>
    rw [List.foldl_cons, ih, addItem, markAll_withKnown]
    rfl

theorem rows_foldl_addItem (run : Run) (p : Progress) (items : List Item) :
    (items.foldl run.addItem p).report.rows
      = p.report.rows ++ rowsFrom run p.context.tables.knownRevisions items := by
  induction items generalizing p with
  | nil => exact (List.append_nil _).symm
  | cons item items ih =>
    rw [List.foldl_cons, ih]
    exact List.append_assoc _ _ _

theorem foldl_addCollected (run : Run) (p : Progress) (found : List (Plugin × Collected)) :
    found.foldl run.addCollected p
      = (found.map fun f => Item.released f.1 f.2).foldl run.addItem p := by
  rw [List.foldl_map]
  rfl

theorem addDirectory_eq (run : Run) (p : Progress) (name : String) :
    run.addDirectory p name =
      if p.context.wantsDirectory name then run.addItem p (.directory name) else p := by
  have hskip : (!p.context.admits name || p.context.isSkipped name || p.context.hasSeenSvn name)
      = !p.context.wantsDirectory name := by
    simp [Context.wantsDirectory]
  rw [addDirectory]
  simp only [hskip]
  cases p.context.wantsDirectory name <;> rfl

theorem addRepository_eq (run : Run) (p : Progress) (name : String) :
    run.addRepository p name =
      if p.context.wantsRepository name then run.addItem p (.repository name) else p := by
  have hskip : (!p.context.admits name || p.context.isSkipped name ||
      p.context.hasSeenGithub name) = !p.context.wantsRepository name := by
    simp [Context.wantsRepository]
  rw [addRepository]
  simp only [hskip]
  cases p.context.wantsRepository name <;> rfl

/-- Adding named things one after another adds the items of those that are wanted at first, when
what is wanted does not depend on what was added before. -/
theorem foldl_eq_foldl_addItem {run : Run} {add : Progress → String → Progress}
    {wants : Context → String → Bool} {item : String → Item}
    (hadd : ∀ p name,
      add p name = if wants p.context name then run.addItem p (item name) else p)
    (hwants : ∀ p name, wants (run.addItem p (item name)).context = wants p.context)
    (p : Progress) (names : List String) :
    names.foldl add p = ((names.filter (wants p.context)).map item).foldl run.addItem p := by
  induction names generalizing p with
  | nil => rfl
  | cons name names ih =>
    rw [List.foldl_cons, hadd, ih]
    by_cases hname : wants p.context name = true
    · rw [if_pos hname, hwants, List.filter_cons_of_pos hname, List.map_cons, List.foldl_cons]
    · rw [if_neg hname, List.filter_cons_of_neg hname]

theorem foldl_addDirectory (run : Run) (p : Progress) (names : List String) :
    names.foldl run.addDirectory p
      = ((names.filter p.context.wantsDirectory).map Item.directory).foldl run.addItem p :=
  foldl_eq_foldl_addItem run.addDirectory_eq (fun _ _ => rfl) p names

theorem foldl_addRepository (run : Run) (p : Progress) (names : List String) :
    names.foldl run.addRepository p
      = ((names.filter p.context.wantsRepository).map Item.repository).foldl run.addItem p :=
  foldl_eq_foldl_addItem run.addRepository_eq (fun _ _ => rfl) p names

/-- The released plugins that a survey found. -/
def releasedItems (s : Survey) : List Item := s.collected.map fun f => .released f.1 f.2

/-- The context in which the directories are looked at. -/
def afterReleased (c : Context) (s : Survey) : Context :=
  (markAll c (releasedItems s)).propagateSkips

/-- The directories that get a row. -/
def directoryItems (c : Context) (s : Survey) : List Item :=
  (s.directories.filter (afterReleased c s).wantsDirectory).map .directory

/-- The repositories that get a row. -/
def repositoryItems (c : Context) (s : Survey) : List Item :=
  (s.repositories.filter
    (markAll (afterReleased c s) (directoryItems c s)).wantsRepository).map .repository

/-- All that gets a row, by what a survey found. -/
def items (c : Context) (s : Survey) : List Item :=
  releasedItems s ++ directoryItems c s ++ repositoryItems c s

@[simp] theorem propagateSkips_withKnown (c : Context) (known : Overrides.Table) :
    (c.withKnown known).propagateSkips = c.propagateSkips.withKnown known := rfl

/-- A run that has added the released plugins. -/
def withReleased (run : Run) (c : Context) (s : Survey) : Progress :=
  let p := (releasedItems s).foldl run.addItem { context := c }
  { p with context := p.context.propagateSkips }

theorem context_withReleased (run : Run) (c : Context) (s : Survey) :
    (run.withReleased c s).context = (afterReleased c s).withKnown
      (c.tables.knownRevisions.eraseAll ((releasedItems s).map Item.key)) := by
  rw [withReleased, context_foldl_addItem, propagateSkips_withKnown]
  rfl

theorem rows_withReleased (run : Run) (c : Context) (s : Survey) :
    (run.withReleased c s).report.rows
      = rowsFrom run c.tables.knownRevisions (releasedItems s) := by
  rw [withReleased, rows_foldl_addItem]
  rfl

/-- What comes of a survey is that all items are added, but for the suppression of mirrors, which
comes between the released plugins and the rest. -/
theorem assemble_eq (run : Run) (c : Context) (s : Survey) :
    run.assemble c s = (directoryItems c s ++ repositoryItems c s).foldl run.addItem
      (run.withReleased c s) := by
  let p := run.withReleased c s
  have hp := context_withReleased run c s
  have hdirectories : p.context.wantsDirectory = (afterReleased c s).wantsDirectory := by
    rw [hp]
    rfl
  have hrepositories : ((directoryItems c s).foldl run.addItem p).context.wantsRepository
      = (markAll (afterReleased c s) (directoryItems c s)).wantsRepository := by
    rw [context_foldl_addItem, hp, markAll_withKnown]
    rfl
  have hcollected : run.assemble c s = s.repositories.foldl run.addRepository
      (s.directories.foldl run.addDirectory p) := by
    rw [assemble, foldl_addCollected]
    rfl
  rw [hcollected, foldl_addDirectory, hdirectories, ← directoryItems, foldl_addRepository,
    hrepositories, ← repositoryItems, List.foldl_append]

/-- After a run the table of known revisions is the operator's without the keys of the items. -/
theorem context_assemble (run : Run) (c : Context) (s : Survey) :
    (run.assemble c s).context = (markAll (afterReleased c s)
      (directoryItems c s ++ repositoryItems c s)).withKnown
        (c.tables.knownRevisions.eraseAll ((items c s).map Item.key)) := by
  have hkeys : (items c s).map Item.key = (releasedItems s).map Item.key
      ++ (directoryItems c s ++ repositoryItems c s).map Item.key := by
    rw [items, List.append_assoc, List.map_append]
  rw [assemble_eq, hkeys, Overrides.Table.eraseAll_append, context_foldl_addItem,
    context_withReleased, markAll_withKnown]
  rfl

/-- Before they are sorted the rows are those of the items, one by one. -/
theorem rows_assemble (run : Run) (c : Context) (s : Survey) :
    (run.assemble c s).report.rows = rowsFrom run c.tables.knownRevisions (items c s) := by
  rw [assemble_eq, rows_foldl_addItem, rows_withReleased, context_withReleased, items,
    List.append_assoc, rowsFrom_append run _ (releasedItems s)]
  rfl

theorem shows_rows_assemble (run : Run) (c : Context) (s : Survey) :
    List.Forall₂ (Item.Shows run) (items c s) (run.assemble c s).report.rows := by
  rw [rows_assemble]
  exact shows_rowsFrom run _ _

end ReleaseGap.Run
