import ReleaseGap.Report.Render

/-!
# The order of the rows

Rows are ordered by their lines from the name on, so what ends a name in its line is compared as
well.  Two rows stand in the order of their names unless the name of the second begins the name of
the first.  A linked name ends with a bar, which comes after hyphens and letters, so that
`foo-plugin` stands before `foo`.
-/
namespace ReleaseGap.Report

/-- Whether a row may stand before another. -/
def Row.mayPrecede (a b : Row) : Bool := decide (a.sortKey ≤ b.sortKey)

theorem Row.mayPrecede_trans (a b c : Row) (hab : a.mayPrecede b = true)
    (hbc : b.mayPrecede c = true) : a.mayPrecede c = true :=
  decide_eq_true (String.le_trans (of_decide_eq_true hab) (of_decide_eq_true hbc))

theorem Row.mayPrecede_total (a b : Row) : (a.mayPrecede b || b.mayPrecede a) = true := by
  simpa [mayPrecede] using String.le_total a.sortKey b.sortKey

theorem rows_sort (r : Report) : r.sort.rows = r.rows.mergeSort Row.mayPrecede := by
  let keyed := r.rows.map fun row => (row.sortKey, row)
  have hle : ∀ a ∈ keyed, ∀ b ∈ keyed, decide (a.1 ≤ b.1) = a.2.mayPrecede b.2 := by
    intro a ha b hb
    obtain ⟨rowA, -, rfl⟩ := List.mem_map.1 ha
    obtain ⟨rowB, -, rfl⟩ := List.mem_map.1 hb
    rfl
  have hrows : keyed.map Prod.snd = r.rows := by simp [keyed, Function.comp_def]
  exact (List.map_mergeSort hle).trans (congrArg (List.mergeSort · Row.mayPrecede) hrows)

theorem pairwise_rows_sort (r : Report) :
    r.sort.rows.Pairwise fun a b => a.sortKey ≤ b.sortKey := by
  rw [rows_sort]
  refine (List.pairwise_mergeSort Row.mayPrecede_trans Row.mayPrecede_total r.rows).imp ?_
  exact fun h => of_decide_eq_true h

/-- Of two texts the smaller one stays the smaller whatever follows the two, unless the greater one
goes on where the smaller ends, with a character that does not come after what follows there. -/
theorem append_lt_append_of_lt {a b : List Char} (h : b < a) (u v : List Char) (y : Char) :
    b ++ y :: v < a ++ u ∨ ∃ c rest, a = b ++ c :: rest ∧ c ≤ y := by
  induction b generalizing a with
  | nil =>
    cases a with
    | nil => exact absurd h (List.lt_irrefl _)
    | cons c rest =>
      by_cases hc : c ≤ y
      · exact .inr ⟨c, rest, rfl, hc⟩
      · exact .inl (List.cons_lt_cons_iff.2 (.inl (Char.not_le.1 hc)))
  | cons d b ih =>
    cases a with
    | nil => exact absurd h (List.not_lt_nil _)
    | cons c a =>
      rcases List.cons_lt_cons_iff.1 h with hlt | ⟨rfl, htail⟩
      · exact .inl (List.cons_lt_cons_iff.2 (.inl hlt))
      · rcases ih htail with hlt | ⟨e, rest, rfl, he⟩
        · exact .inl (List.cons_lt_cons_iff.2 (.inr ⟨rfl, hlt⟩))
        · exact .inr ⟨e, rest, rfl, he⟩

/-- A name as it is compared. -/
def loweredName (name : String) : String := Text.onChars Text.lower name

/-- The first character of a name is none of the marks that stand before names. -/
def IsListable (name : String) : Prop :=
  ∃ c rest, name.toList = c :: rest ∧ Row.isLineMark c = false

namespace Row

/-- A row is listed under a name, which a mark ends in the row's line. -/
inductive IsListed : Row → String → Char → Prop
  | plain {plugin : Plugin} (collected : Collected) (c : Classification) (today : Calendar.Date)
      (h : plugin.wiki = none ∨ plugin.wiki = some "") :
      IsListed (released plugin collected c today) plugin.id ' '
  | linked {plugin : Plugin} (collected : Collected) (c : Classification) (today : Calendar.Date)
      {wiki : String} (h : plugin.wiki = some wiki) (hwiki : wiki ≠ "") :
      IsListed (released plugin collected c today) plugin.id '|'
  | unreleased (name url label : String) : IsListed (unreleased name url label) name '|'

variable {row : Row} {name : String} {mark : Char}

theorem endsWords_of_isListed (h : IsListed row name mark) : Text.EndsWords mark := by
  cases h <;> exact ⟨by decide +kernel, by decide +kernel⟩

/-- The mark itself has no lower case. -/
theorem lowerAfter_cons_of_isListed (h : IsListed row name mark) (before rest : List Char) :
    Text.lowerAfter before (mark :: rest) = mark :: Text.lowerAfter (mark :: before) rest := by
  cases h <;> rfl

theorem toList_line_of_isListed (h : IsListed row name mark) :
    ∃ lead rest, row.line.toList = lead ++ (name.toList ++ mark :: rest) ∧
      ∀ c ∈ lead, isLineMark c = true := by
  cases h with
  | @plain plugin collected c today h =>
    have hcell : nameCell plugin = plugin.id := by
      rcases h with h | h <;> simp [nameCell, h]
    let since := sinceCell c.count collected.compareUrl
    let dates := datesCell c.firstDate c.lastDate today
    refine ⟨['|', ' '], s!"| {since} {collected.version} | {dates} | {c.label}".toList, ?_,
      by simp [isLineMark]⟩
    simp [released, hcell, ToString.toString, since, dates]
  | @linked plugin collected c today wiki h hwiki =>
    let since := sinceCell c.count collected.compareUrl
    let dates := datesCell c.firstDate c.lastDate today
    refine ⟨['|', ' ', '['], s!"{wiki}] | {since} {collected.version} | {dates} | {c.label}".toList,
      ?_, by simp [isLineMark]⟩
    simp [released, nameCell, h, hwiki, ToString.toString, since, dates]
  | unreleased name url label =>
    refine ⟨['|', ' ', '['], s!"{url}] | | | {label}".toList, ?_, by simp [isLineMark]⟩
    simp [Row.unreleased, ToString.toString]

/-- What rows are ordered by begins with the lowered name and the mark behind it. -/
theorem toList_sortKey_of_isListed (h : IsListed row name mark) (hname : IsListable name) :
    ∃ rest, row.sortKey.toList = (loweredName name).toList ++ mark :: rest := by
  obtain ⟨lead, rest, hline, hlead⟩ := toList_line_of_isListed h
  obtain ⟨c, tail, hc, hmark⟩ := hname
  have hdrop : row.line.toList.dropWhile isLineMark = name.toList ++ mark :: rest := by
    rw [hline, List.dropWhile_append_of_pos hlead, hc]
    simp [hmark]
  let before := name.toList.reverse ++ []
  refine ⟨Text.lowerAfter (mark :: before) rest, ?_⟩
  rw [sortKey, Text.toList_onChars, hdrop, loweredName, Text.toList_onChars, Text.lower,
    Text.lowerAfter_append_cons (endsWords_of_isListed h), Text.lower,
    lowerAfter_cons_of_isListed h before rest]

end Row

/-- After sorting, rows stand in the order of their lowered names, except that a name may stand
before one that it extends by a character not after the mark that ends the other name. -/
theorem pairwise_rows_sort_names (r : Report) :
    r.sort.rows.Pairwise fun a b => ∀ m n x y, a.IsListed m x → b.IsListed n y →
      IsListable m → IsListable n → loweredName m ≤ loweredName n ∨
        ∃ c rest, (loweredName m).toList = (loweredName n).toList ++ c :: rest ∧ c ≤ y := by
  refine (pairwise_rows_sort r).imp ?_
  intro a b hab m n x y ha hb hm hn
  obtain ⟨u, hu⟩ := Row.toList_sortKey_of_isListed ha hm
  obtain ⟨v, hv⟩ := Row.toList_sortKey_of_isListed hb hn
  by_cases hle : loweredName m ≤ loweredName n
  · exact .inl hle
  · have hlt : (loweredName n).toList < (loweredName m).toList := String.not_le.1 hle
    rcases append_lt_append_of_lt hlt (x :: u) v y with hkey | hextends
    · rw [← hu, ← hv] at hkey
      exact absurd hab (String.not_le.2 hkey)
    · exact .inr hextends

/-- A linked name stands behind a name that extends it by a hyphen. -/
theorem rows_sort_extended_name :
    let foo := Row.unreleased "foo" "u" "unreleased"
    let fooPlugin := Row.unreleased "foo-plugin" "u" "unreleased"
    foo.IsListed "foo" '|' ∧ fooPlugin.IsListed "foo-plugin" '|' ∧
      IsListable "foo" ∧ IsListable "foo-plugin" ∧
      (Report.sort { rows := [foo, fooPlugin] }).rows = [fooPlugin, foo] ∧
      ¬ loweredName "foo-plugin" ≤ loweredName "foo" := by
  intro foo fooPlugin
  have hkey : ¬ foo.sortKey ≤ fooPlugin.sortKey := by decide +kernel
  refine ⟨.unreleased .., .unreleased .., ⟨'f', ['o', 'o'], rfl, by decide⟩,
    ⟨'f', "oo-plugin".toList, rfl, by decide⟩, ?_, by decide +kernel⟩
  simp [Report.sort, List.mergeSort, hkey]

end ReleaseGap.Report
