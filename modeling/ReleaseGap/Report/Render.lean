import ReleaseGap.Report.Row

/-!
# The report

The rows of a run in three sections by their labels, and the entries of the operator that nothing
used. A row whose label names two sections stands in both.
-/

namespace ReleaseGap

/-- The label of a repository that was never released. -/
def unreleasedLabel : String := "unreleased"

/-- The rows of a run, and the keys and texts of the entries that nothing used. -/
structure Report where
  rows : List Report.Row := []
  unused : List (String × String) := []
deriving DecidableEq, Repr

namespace Report

def push (r : Report) (row : Row) : Report := { r with rows := r.rows ++ [row] }

/-- Puts the rows in the order of their names.  Rows alike in that keep their order. -/
def sort (r : Report) : Report :=
  let keyed := r.rows.map fun row => (row.sortKey, row)
  { r with rows := (keyed.mergeSort fun a b => decide (a.1 ≤ b.1)).map Prod.snd }

/-- Sorting loses no row and repeats none. -/
theorem rows_sort_perm (r : Report) : r.sort.rows.Perm r.rows := by
  have h := (List.mergeSort_perm (r.rows.map fun row => (row.sortKey, row))
    fun a b => decide (a.1 ≤ b.1)).map Prod.snd
  simpa [sort, Function.comp_def] using h

def isCurrent (row : Row) : Bool := Text.contains row.label currentLabel

def isUnreleased (row : Row) : Bool := Text.contains row.label unreleasedLabel

/-- The rows with changes since the release. -/
def changed (r : Report) : List Row := r.rows.filter fun row => !isCurrent row && !isUnreleased row

/-- The rows of repositories that were never released. -/
def neverReleased (r : Report) : List Row := r.rows.filter isUnreleased

/-- The rows without changes. -/
def current (r : Report) : List Row := r.rows.filter isCurrent

/-- The lines above the sections. -/
def heading (wording : Settings.Wording) : List String :=
  [s!"This is a report of unreleased changes in {wording.ecosystem}' plugin repositories.",
    s!"It is updated {wording.schedule}."]

/-- The line of an entry that nothing used. -/
def unusedLine (entry : String × String) : String :=
  s!"| Unused data | in | KnownRevs: | {entry.1} | {entry.2}"

/-- All lines of the report. -/
def allLines (r : Report) (wording : Settings.Wording) : List String :=
  heading wording
    ++ ["", "h3. Plugin Changes"] ++ r.changed.map (·.line)
    ++ ["", "h3. Unreleased Plugins"] ++ r.neverReleased.map (·.line)
    ++ ["", "h3. Current Plugins"] ++ r.current.map (·.line)
    ++ r.unused.map unusedLine

/-- The text of the report. -/
def render (r : Report) (wording : Settings.Wording) : String :=
  String.join ((r.allLines wording).map (· ++ "\n"))

/-- The lines below a report: when it was made, and how long it took. -/
def footer (generatedAt : String) (elapsedSeconds : Nat) : String :=
  s!"\nGenerated at: {generatedAt} in {elapsedSeconds / 60} min {elapsedSeconds % 60} sec\n"

end Report

end ReleaseGap
