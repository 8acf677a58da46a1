import Mathlib.Tactic.Common
import ReleaseGap.Change.Classification
import ReleaseGap.Source.Collected

/-!
# What a source answers and the label that comes of it

A source's answer is its latest release with the changes since.  Collecting from it and classifying
what was collected are functions of that answer: the table of known revisions loses one key, and an
answer without a release or without changes never gives the label of a current plugin.
-/
namespace ReleaseGap

variable (source : Source) (classifier : Classifier) (plugin : Plugin) (known : Overrides.Table)

/-- The latest release of a plugin and the changes since; none if no release was found. -/
def Source.answer : Session (Option (Release × List Revision)) := do
  match ← source.latestRelease plugin with
  | none => return none
  | some release => return some (release, ← source.revisionsSince plugin release)

/-- What is collected from an answer. -/
def Source.collectedOf : Option (Release × List Revision) → Collected
  | none => ⟨unknownVersion, [], source.compareUrl plugin none⟩
  | some (release, revisions) =>
    ⟨release.version, revisions, source.compareUrl plugin (some release)⟩

/-- The number of changes that were not made by release tooling. -/
def Collected.count (c : Collected) : Nat :=
  (c.revisions.filter fun r => !Message.isReleaseNoise r.message).length

/-- The key that a plugin's classification looks up. -/
def Collected.key (c : Collected) (id : String) : String :=
  Classification.key id c.version c.count

/-- The table with an entry for a plugin whose changes are missing. -/
def Collected.seed (c : Collected) (id : String) (known : Overrides.Table) : Overrides.Table :=
  if c.revisions.isEmpty then known.seed s!"{id}-{c.version}-0" unknownVersion else known

/-- A plugin collected and classified, and the table that is left. -/
structure Examined where
  collected : Collected
  classification : Classification
  known : Overrides.Table

/-- Collects a plugin's changes and classifies them by the same table. -/
def Source.examine : Session Examined := do
  let (collected, known) ← source.collect plugin known
  let (classification, known) :=
    classifier.classify plugin.id plugin.version collected.version collected.revisions known
  return { collected, classification, known }

/-- Collecting is asking and then seeding: no question depends on the table. -/
theorem Source.collect_eq :
    source.collect plugin known = source.answer plugin >>= fun answer =>
      let c := source.collectedOf plugin answer
      pure (c, c.seed plugin.id known) := by
  rw [Source.collect, Source.answer]
  simp only [bind_assoc]
  congr 1
  funext release
  cases release with
  | none => rfl
  | some release => simp [Source.collectedOf, Collected.seed]

@[simp] theorem Classifier.known_classify (id declared : String) (c : Collected) :
    (classifier.classify id declared c.version c.revisions known).2
      = known.erase (c.key id) := rfl

theorem Collected.count_eq_zero_iff (c : Collected) :
    c.count = 0 ↔ ∀ r ∈ c.revisions, Message.isReleaseNoise r.message = true := by
  simp [Collected.count, List.filter_eq_nil_iff]

/-- What is seeded is what the classification looks up. -/
theorem Collected.seed_eq (c : Collected) (id : String) (known : Overrides.Table) :
    c.seed id known
      = if c.revisions = [] then known.seed (c.key id) unknownVersion else known := by
  rw [Collected.seed]
  by_cases h : c.revisions = []
  · have hcount : c.count = 0 := by simp [Collected.count, h]
    have hkey : c.key id = s!"{id}-{c.version}-0" := by
      have hzero : "-" ++ toString 0 = "-0" := by decide
      simp only [Collected.key, Classification.key, hcount, String.append_assoc]
      exact congrArg (fun tail => id ++ ("-" ++ (c.version ++ tail))) hzero
    simp [h, hkey]
  · simp [h]

theorem Collected.get?_seed (c : Collected) (id : String) (known : Overrides.Table) :
    (c.seed id known).get? (c.key id) =
      if c.revisions = [] then some ((known.get? (c.key id)).getD (.text unknownVersion))
      else known.get? (c.key id) := by
  rw [Collected.seed_eq]
  split
  · simp [Overrides.Table.get?_seed]
  · rfl

/-- A seeded entry is used up at once, so no other look-up ever meets one. -/
theorem Collected.erase_seed (c : Collected) (id : String) (known : Overrides.Table) :
    (c.seed id known).erase (c.key id) = known.erase (c.key id) := by
  ext key : 1
  rw [Collected.seed_eq]
  by_cases hkey : c.key id = key
  · simp [Overrides.Table.get?_erase, hkey]
  · split <;> simp [Overrides.Table.get?_erase, Overrides.Table.get?_seed, hkey]

/-- Of the table only what stands under its own key counts for a classification. -/
theorem Classifier.classify_seed_erase {key id : String} {c : Collected} (h : c.key id ≠ key)
    (declared : String) :
    (classifier.classify id declared c.version c.revisions (c.seed id (known.erase key))).1
      = (classifier.classify id declared c.version c.revisions (c.seed id known)).1 := by
  have hentry : (c.seed id (known.erase key)).get? (c.key id)
      = (c.seed id known).get? (c.key id) := by
    simp [Collected.get?_seed, Overrides.Table.get?_erase, Ne.symm h]
  simp only [Collected.key, Collected.count] at hentry
  simp only [Classifier.classify, Overrides.Table.take, hentry]

theorem Source.examine_eq :
    source.examine classifier plugin known = source.answer plugin >>= fun answer =>
      let c := source.collectedOf plugin answer
      pure {
        collected := c
        classification := (classifier.classify plugin.id plugin.version c.version c.revisions
          (c.seed plugin.id known)).1
        known := known.erase (c.key plugin.id) } := by
  rw [Source.examine]
  rw [Source.collect_eq]
  simp [Collected.erase_seed]

end ReleaseGap
