import ReleaseGap.Proofs.Run.Coverage

/-!
# Items within a limit

A run with a limit finds the listings of the whole run, and the plugins whose ids begin with the
limit.  It has the items of the whole run that are within the limit, and others besides: what only a
plugin or a directory beyond the limit covers is exposed, since nothing beyond it is looked at.
-/
namespace ReleaseGap.Run

/-- The name that a limit applies to. -/
def Item.name : Item → String
  | .released plugin _ => plugin.id
  | .directory name => name
  | .repository name => name

def Item.isWithin (limit : String) (item : Item) : Bool := Text.startsWith item.name limit

/-- Whether an item keeps another one out of the report. -/
def Item.covers (item : Item) : Item → Bool
  | .released _ _ => false
  | .directory name => item.coveredDirectories.contains name
  | .repository name => item.coveredRepositories.contains name

/-- Whether one of some items covers an item. -/
def isCovered (items : List Item) (item : Item) : Bool := items.any (·.covers item)

/-- The survey of the plugins within a limit. -/
def Survey.within (s : Survey) (limit : String) : Survey :=
  { s with collected := s.collected.filter fun f => Text.startsWith f.1.id limit }

/-- The names in a listing that only items beyond a limit cover. -/
def exposedNames (tables : Overrides.Tables) (limit : String) (item : String → Item)
    (within beyond : List Item) (names : List String) : List String :=
  names.filter fun name => Text.startsWith name limit && !isSuppressed tables name &&
    isCovered beyond (item name) && !isCovered within (item name)

/-- What a limit exposes, by the items within and beyond it.  An exposed directory covers the
repository that it would move to. -/
def exposedItems (tables : Overrides.Tables) (limit : String) (within beyond : List Item)
    (s : Survey) : List Item :=
  let directories := (exposedNames tables limit .directory within beyond s.directories).map
    Item.directory
  directories ++ (exposedNames tables limit .repository (within ++ directories) beyond
    s.repositories).map .repository

variable {tables : Overrides.Tables} {limit : String} {s : Survey} {name : String}

theorem isCovered_append (items items' : List Item) (item : Item) :
    isCovered (items ++ items') item = (isCovered items item || isCovered items' item) :=
  List.any_append

/-- What covers an item is on one side of a division or on the other. -/
theorem isCovered_eq_or (side : Item → Bool) (items : List Item) (item : Item) :
    isCovered items item
      = (isCovered (items.filter side) item || isCovered (items.filter (!side ·)) item) := by
  rw [← isCovered_append]
  exact ((List.filter_append_perm side items).any_eq).symm

theorem isCovered_directory_iff {items : List Item} :
    isCovered items (.directory name) = true ↔ name ∈ items.flatMap Item.coveredDirectories := by
  simp [isCovered, Item.covers, List.mem_flatMap]

theorem isCovered_repository_iff {items : List Item} :
    isCovered items (.repository name) = true ↔ name ∈ items.flatMap Item.coveredRepositories := by
  simp [isCovered, Item.covers, List.mem_flatMap]

/-- The directories that have a row are those that no item covers. -/
theorem directoriesOf_eq (tables : Overrides.Tables) (limit : Option String) (s : Survey) :
    directoriesOf tables limit s = s.directories.filter fun name =>
      limit.all (Text.startsWith name ·) && !isSuppressed tables name &&
        !isCovered (items (startContext tables limit) s) (.directory name) := by
  refine List.filter_congr fun name _ => ?_
  have hcovered : isCovered (items (startContext tables limit) s) (.directory name)
      = ((s.collected.map Prod.fst).map Plugin.coveredDirectory).contains name := by
    rw [Bool.eq_iff_iff, isCovered_directory_iff, coveredDirectories_items, List.contains_iff_mem]
  rw [hcovered]

/-- The repositories that have a row are those that no item covers. -/
theorem repositoriesOf_eq (tables : Overrides.Tables) (limit : Option String) (s : Survey) :
    repositoriesOf tables limit s = s.repositories.filter fun name =>
      limit.all (Text.startsWith name ·) && !isSuppressed tables name &&
        !isCovered (items (startContext tables limit) s) (.repository name) := by
  refine List.filter_congr fun name _ => ?_
  have hcovered : isCovered (items (startContext tables limit) s) (.repository name)
      = ((s.collected.map Prod.fst).map Plugin.coveredRepository
          ++ (directoriesOf tables limit s).map (· ++ "-plugin")).contains name := by
    rw [Bool.eq_iff_iff, isCovered_repository_iff, coveredRepositories_items,
      List.contains_iff_mem]
  rw [hcovered]

/-- A plugin beyond a limit that covers a directory within it is in svn, so it covers the repository
that the directory would move to as well. -/
theorem coveredRepository_of_beyond {plugin : Plugin}
    (hid : Text.startsWith plugin.id limit = false)
    (hdirectory : Text.startsWith plugin.coveredDirectory limit = true) :
    plugin.coveredRepository = plugin.coveredDirectory ++ "-plugin" := by
  cases hkind : plugin.kind with
  | hostedGit =>
    rw [Plugin.coveredDirectory, hkind] at hdirectory
    exact absurd (hid.symm.trans hdirectory) Bool.false_ne_true
  | legacySvn => simp [Plugin.coveredRepository, Plugin.coveredDirectory, hkind]

section Items

variable (tables limit s)

/-- The items of a whole run. -/
def allItems : List Item := items (startContext tables none) s

/-- The items of a whole run whose names are within a limit. -/
def itemsWithin : List Item := (allItems tables s).filter (Item.isWithin limit)

/-- The items of a whole run whose names are beyond a limit. -/
def itemsBeyond : List Item := (allItems tables s).filter (!Item.isWithin limit ·)

/-- The items of a run with a limit. -/
def limitedItems : List Item := items (startContext tables (some limit)) (s.within limit)

/-- The directories that have a row in a run with a limit. -/
def limitedDirectories : List String := directoriesOf tables (some limit) (s.within limit)

/-- The directories that a limit exposes. -/
def exposedDirectories : List String :=
  exposedNames tables limit .directory (itemsWithin tables limit s) (itemsBeyond tables limit s)
    s.directories

/-- The items within a limit are those of its plugins, directories and repositories. -/
theorem itemsWithin_eq :
    itemsWithin tables limit s = releasedItems (s.within limit)
      ++ ((directoriesOf tables none s).filter (Text.startsWith · limit)).map .directory
      ++ ((repositoriesOf tables none s).filter (Text.startsWith · limit)).map .repository := by
  rw [itemsWithin, allItems, items_eq, List.filter_append, List.filter_append, releasedItems,
    List.filter_map, List.filter_map, List.filter_map]
  rfl

theorem isCovered_allItems (item : Item) :
    isCovered (allItems tables s) item = (isCovered (itemsWithin tables limit s) item
      || isCovered (itemsBeyond tables limit s) item) :=
  isCovered_eq_or (Item.isWithin limit) (allItems tables s) item

/-- Directories are covered in a run with a limit by what covers them within it in the whole run. -/
theorem isCovered_limitedItems_directory :
    isCovered (limitedItems tables limit s) (.directory name)
      = isCovered (itemsWithin tables limit s) (.directory name) := by
  rw [Bool.eq_iff_iff, isCovered_directory_iff, isCovered_directory_iff, limitedItems, items_eq,
    itemsWithin_eq]
  simp only [List.flatMap_append, flatMap_coveredDirectories_directories,
    flatMap_coveredDirectories_repositories]

/-- A directory within the limit that has a row in the whole run has one in the limited run. -/
theorem filter_limitedDirectories_uncovered :
    (limitedDirectories tables limit s).filter
        (fun name => !isCovered (allItems tables s) (.directory name))
      = (directoriesOf tables none s).filter (Text.startsWith · limit) := by
  rw [limitedDirectories, directoriesOf_eq, directoriesOf_eq, List.filter_filter,
    List.filter_filter]
  refine List.filter_congr fun name _ => ?_
  rw [← limitedItems, ← allItems, isCovered_limitedItems_directory,
    isCovered_allItems tables limit]
  grind

theorem filter_limitedDirectories_covered :
    (limitedDirectories tables limit s).filter
        (fun name => isCovered (allItems tables s) (.directory name))
      = exposedDirectories tables limit s := by
  rw [limitedDirectories, directoriesOf_eq, exposedDirectories, exposedNames, List.filter_filter]
  refine List.filter_congr fun name _ => ?_
  rw [← limitedItems, isCovered_limitedItems_directory, isCovered_allItems tables limit]
  grind

variable {tables limit s} in
theorem mem_limitedDirectories :
    name ∈ limitedDirectories tables limit s ↔
      name ∈ (directoriesOf tables none s).filter (Text.startsWith · limit) ∨
        name ∈ exposedDirectories tables limit s := by
  rw [← filter_limitedDirectories_uncovered, ← filter_limitedDirectories_covered,
    List.mem_filter, List.mem_filter, ← and_or_left]
  cases isCovered (allItems tables s) (.directory name) <;> simp

/-- Repositories are covered in a run with a limit by what covers them within it in the whole run,
and by the directories that the limit exposes. -/
theorem isCovered_limitedItems_repository :
    isCovered (limitedItems tables limit s) (.repository name)
      = isCovered (itemsWithin tables limit s
          ++ (exposedDirectories tables limit s).map .directory) (.repository name) := by
  rw [Bool.eq_iff_iff, isCovered_repository_iff, isCovered_repository_iff, limitedItems, items_eq,
    itemsWithin_eq, ← limitedDirectories]
  simp only [List.flatMap_append, flatMap_coveredRepositories_directories,
    flatMap_coveredRepositories_repositories, List.append_nil, List.mem_append, List.mem_map,
    mem_limitedDirectories, or_and_right, exists_or, or_assoc]

variable {tables limit s} in
/-- What an exposed directory covers is covered in the whole run too. -/
theorem isCovered_allItems_of_exposed
    (h : isCovered ((exposedDirectories tables limit s).map .directory) (.repository name)
      = true) :
    isCovered (allItems tables s) (.repository name) = true := by
  rw [isCovered_repository_iff, List.flatMap_map, List.mem_flatMap] at h
  obtain ⟨directory, hexposed, hname⟩ := h
  obtain rfl := List.mem_singleton.1 hname
  simp only [exposedDirectories, exposedNames, List.mem_filter, Bool.and_eq_true] at hexposed
  obtain ⟨-, ⟨⟨hwithin, -⟩, hbeyond⟩, -⟩ := hexposed
  obtain ⟨item, hitem, hcovers⟩ := List.any_eq_true.1 hbeyond
  obtain ⟨hitem, hside⟩ := List.mem_filter.1 hitem
  refine List.any_eq_true.2 ⟨item, hitem, ?_⟩
  cases item with
  | released plugin collected =>
    obtain rfl : directory = plugin.coveredDirectory := by
      simpa [Item.covers, Item.coveredDirectories] using hcovers
    have hid : Text.startsWith plugin.id limit = false := by
      simpa [Item.isWithin, Item.name] using hside
    simp [Item.covers, Item.coveredRepositories, coveredRepository_of_beyond hid hwithin]
  | directory other => simp [Item.covers, Item.coveredDirectories] at hcovers
  | repository other => simp [Item.covers, Item.coveredDirectories] at hcovers

/-- The repositories that have a row in a run with a limit. -/
def limitedRepositories : List String := repositoriesOf tables (some limit) (s.within limit)

/-- A repository within the limit that has a row in the whole run has one in the limited run. -/
theorem filter_limitedRepositories_uncovered :
    (limitedRepositories tables limit s).filter
        (fun name => !isCovered (allItems tables s) (.repository name))
      = (repositoriesOf tables none s).filter (Text.startsWith · limit) := by
  rw [limitedRepositories, repositoriesOf_eq, repositoriesOf_eq, List.filter_filter,
    List.filter_filter]
  refine List.filter_congr fun name _ => ?_
  have hexposed := @isCovered_allItems_of_exposed tables limit s name
  rw [← limitedItems, ← allItems, isCovered_limitedItems_repository, isCovered_append]
  rw [isCovered_allItems tables limit] at hexposed ⊢
  grind

theorem filter_limitedRepositories_covered :
    (limitedRepositories tables limit s).filter
        (fun name => isCovered (allItems tables s) (.repository name))
      = exposedNames tables limit .repository
          (itemsWithin tables limit s ++ (exposedDirectories tables limit s).map .directory)
          (itemsBeyond tables limit s) s.repositories := by
  rw [limitedRepositories, repositoriesOf_eq, exposedNames, List.filter_filter]
  refine List.filter_congr fun name _ => ?_
  rw [← limitedItems, isCovered_limitedItems_repository, isCovered_allItems tables limit,
    isCovered_append]
  grind

theorem limitedItems_eq :
    limitedItems tables limit s = releasedItems (s.within limit)
      ++ (limitedDirectories tables limit s).map .directory
      ++ (limitedRepositories tables limit s).map .repository :=
  items_eq tables (some limit) (s.within limit)

/-- The items of a run with a limit that the whole run does not cover are those of the whole run
within the limit. -/
theorem filter_limitedItems_uncovered :
    (limitedItems tables limit s).filter (!isCovered (allItems tables s) ·)
      = itemsWithin tables limit s := by
  rw [limitedItems_eq, itemsWithin_eq, List.filter_append, List.filter_append, List.filter_map,
    List.filter_map, ← filter_limitedDirectories_uncovered,
    ← filter_limitedRepositories_uncovered]
  congr 2
  refine List.filter_eq_self.2 fun item hitem => ?_
  obtain ⟨found, -, rfl⟩ := List.mem_map.1 hitem
  simp [isCovered, Item.covers]

/-- The items of a run with a limit that the whole run covers are those that the limit exposes. -/
theorem filter_limitedItems_covered :
    (limitedItems tables limit s).filter (isCovered (allItems tables s) ·)
      = exposedItems tables limit (itemsWithin tables limit s) (itemsBeyond tables limit s) s := by
  have hreleased : (releasedItems (s.within limit)).filter (isCovered (allItems tables s) ·)
      = [] := by
    refine List.filter_eq_nil_iff.2 fun item hitem => ?_
    obtain ⟨found, -, rfl⟩ := List.mem_map.1 hitem
    simp [isCovered, Item.covers]
  rw [limitedItems_eq, List.filter_append, List.filter_append, hreleased, List.filter_map,
    List.filter_map, List.nil_append]
  exact congrArg₂ (fun a b => a.map Item.directory ++ b.map Item.repository)
    (filter_limitedDirectories_covered tables limit s)
    (filter_limitedRepositories_covered tables limit s)

/-- A run with a limit has the items of the whole run within the limit and those that the limit
exposes. -/
theorem limitedItems_perm :
    let within := itemsWithin tables limit s
    let exposed := exposedItems tables limit within (itemsBeyond tables limit s) s
    (limitedItems tables limit s).Perm (within ++ exposed) := by
  intro within exposed
  have hdivided := List.filter_append_perm (!isCovered (allItems tables s) ·)
    (limitedItems tables limit s)
  simp only [Bool.not_not] at hdivided
  rw [filter_limitedItems_uncovered, filter_limitedItems_covered] at hdivided
  exact hdivided.symm

end Items

end ReleaseGap.Run
