import ReleaseGap.Proofs.Report.Order
import ReleaseGap.Proofs.Text.Occurrence

/-!
# Printing all rows

Sorting moves rows and does nothing else to them, and rows that are alike in what they are ordered
by keep their order.  Each row is then printed in a section.  The sections overlap: a row whose
label has the words of two of them is printed in both, and no other row is printed twice.
-/
namespace ReleaseGap.Report

/-- A word occurs in the label of a row. -/
def Row.Mentions (row : Row) (word : String) : Prop := word.toList <:+: row.label.toList

instance (row : Row) (word : String) : Decidable (row.Mentions word) :=
  inferInstanceAs (Decidable (word.toList <:+: row.label.toList))

theorem isUnreleased_eq (row : Row) : isUnreleased row = decide (row.Mentions "unreleased") := by
  rw [Bool.eq_iff_iff, decide_eq_true_iff]
  exact Text.contains_iff

theorem isCurrent_eq (row : Row) : isCurrent row = decide (row.Mentions "CURRENT") := by
  rw [Bool.eq_iff_iff, decide_eq_true_iff]
  exact Text.contains_iff

theorem foldl_push (pushed : List Row) (r : Report) :
    pushed.foldl push r = { r with rows := r.rows ++ pushed } := by
  induction pushed generalizing r with
  | nil => simp
  | cons row pushed ih => simp [ih, push]

/-- Among rows that are alike in what rows are ordered by, sorting changes nothing. -/
theorem filter_rows_sort (r : Report) (key : String) :
    r.sort.rows.filter (·.sortKey = key) = r.rows.filter (·.sortKey = key) := by
  let alike := r.rows.filter (·.sortKey = key)
  have hkey : ∀ row ∈ alike, row.sortKey = key := fun row hrow =>
    of_decide_eq_true (List.mem_filter.1 hrow).2
  have hordered : alike.Pairwise fun a b => a.mayPrecede b = true := by
    refine List.pairwise_of_forall_mem_list fun a ha b hb => decide_eq_true ?_
    have hsame : a.sortKey = b.sortKey := (hkey a ha).trans (hkey b hb).symm
    exact hsame ▸ String.le_refl a.sortKey
  -- What is in order already keeps its order among all that is sorted.
  have hsub : alike.Sublist r.sort.rows := by
    rw [rows_sort]
    exact List.sublist_mergeSort Row.mayPrecede_trans Row.mayPrecede_total hordered
      List.filter_sublist
  have hself : alike.filter (·.sortKey = key) = alike :=
    List.filter_eq_self.2 fun row hrow => decide_eq_true (hkey row hrow)
  have hfilter : alike.Sublist (r.sort.rows.filter (·.sortKey = key)) := by
    rw [← hself]
    exact hsub.filter _
  exact (hfilter.eq_of_length ((rows_sort_perm r).filter _).length_eq.symm).symm

/-- The text of lines, each with its line feed. -/
def textOf (lines : List String) : String := String.join (lines.map (· ++ "\n"))

theorem changed_eq (r : Report) : r.changed =
    r.rows.filter fun row => ¬ row.Mentions "CURRENT" ∧ ¬ row.Mentions "unreleased" := by
  simp only [changed, isCurrent_eq, isUnreleased_eq, Bool.decide_and, decide_not]

theorem neverReleased_eq (r : Report) :
    r.neverReleased = r.rows.filter (·.Mentions "unreleased") :=
  List.filter_congr fun row _ => isUnreleased_eq row

theorem current_eq (r : Report) : r.current = r.rows.filter (·.Mentions "CURRENT") :=
  List.filter_congr fun row _ => isCurrent_eq row

/-- The sections hold each row once, and once more if its label has the words of two of them. -/
theorem count_sections (r : Report) (row : Row) :
    (r.changed ++ r.neverReleased ++ r.current).count row
      = (if row.Mentions "CURRENT" ∧ row.Mentions "unreleased" then 2 else 1)
        * r.rows.count row := by
  have hcount (p : Row → Bool) :
      (r.rows.filter p).count row = if p row = true then r.rows.count row else 0 := by
    by_cases hp : p row = true
    · rw [if_pos hp, List.count_filter hp]
    · rw [if_neg hp, List.count_eq_zero]
      exact fun hmem => hp (List.mem_filter.1 hmem).2
  simp only [changed_eq, neverReleased_eq, current_eq, List.count_append, hcount,
    decide_eq_true_eq]
  by_cases hcurrent : row.Mentions "CURRENT" <;> by_cases hword : row.Mentions "unreleased" <;>
    simp [hcurrent, hword, Nat.two_mul]

theorem render_eq (r : Report) (wording : Settings.Wording) :
    r.render wording =
      s!"This is a report of unreleased changes in {wording.ecosystem}' plugin repositories.\n"
        ++ s!"It is updated {wording.schedule}.\n"
        ++ "\nh3. Plugin Changes\n" ++ textOf (r.changed.map (·.line))
        ++ "\nh3. Unreleased Plugins\n" ++ textOf (r.neverReleased.map (·.line))
        ++ "\nh3. Current Plugins\n" ++ textOf (r.current.map (·.line))
        ++ textOf (r.unused.map unusedLine) := by
  rw [← String.toList_inj]
  simp [render, allLines, heading, textOf, ToString.toString]

/-- Whatever rows are pushed, sorting puts them in order and keeps the order of those alike in that.
The text has all of them: in three sections the sorted rows whose labels have neither word, the one
and the other, so that a row stands there twice if its label has both words, and once otherwise. -/
theorem render_sort_of_pushed (pushed : List Row) (unused : List (String × String))
    (wording : Settings.Wording) :
    let report : Report := { pushed.foldl push {} with unused }
    let rows := report.sort.rows
    let changed :=
      rows.filter fun row => ¬ row.Mentions "CURRENT" ∧ ¬ row.Mentions "unreleased"
    let neverReleased := rows.filter (·.Mentions "unreleased")
    let current := rows.filter (·.Mentions "CURRENT")
    rows.Perm pushed ∧
    rows.Pairwise (fun a b => a.sortKey ≤ b.sortKey) ∧
    (∀ key, rows.filter (·.sortKey = key) = pushed.filter (·.sortKey = key)) ∧
    report.sort.render wording =
      s!"This is a report of unreleased changes in {wording.ecosystem}' plugin repositories.\n"
        ++ s!"It is updated {wording.schedule}.\n"
        ++ "\nh3. Plugin Changes\n" ++ textOf (changed.map (·.line))
        ++ "\nh3. Unreleased Plugins\n" ++ textOf (neverReleased.map (·.line))
        ++ "\nh3. Current Plugins\n" ++ textOf (current.map (·.line))
        ++ textOf (unused.map fun entry =>
          s!"| Unused data | in | KnownRevs: | {entry.1} | {entry.2}") ∧
    ∀ row, (changed ++ neverReleased ++ current).count row
      = (if row.Mentions "CURRENT" ∧ row.Mentions "unreleased" then 2 else 1)
        * pushed.count row := by
  intro report rows changed neverReleased current
  have hpushed : report.rows = pushed := by simp [report, foldl_push]
  have hchanged : report.sort.changed = changed := changed_eq _
  have hneverReleased : report.sort.neverReleased = neverReleased := neverReleased_eq _
  have hcurrent : report.sort.current = current := current_eq _
  have hperm : rows.Perm pushed := hpushed ▸ rows_sort_perm report
  refine ⟨hperm, pairwise_rows_sort report, fun key => ?stable, ?text, fun row => ?count⟩
  case stable =>
    rw [← hpushed]
    exact filter_rows_sort report key
  case text =>
    rw [render_eq, hchanged, hneverReleased, hcurrent]
    rfl
  case count =>
    rw [← hchanged, ← hneverReleased, ← hcurrent, count_sections, hperm.count_eq]

end ReleaseGap.Report
