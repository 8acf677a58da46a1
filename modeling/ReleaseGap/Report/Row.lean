import ReleaseGap.Change.Classification
import ReleaseGap.Report.Age
import ReleaseGap.Source.Collected
import ReleaseGap.Text.Lower

/-!
# Rows of the report

A row is one line of wiki markup with the label that says where the report lists it.
-/

namespace ReleaseGap.Report

structure Row where
  line : String
  label : String
deriving DecidableEq, Repr

namespace Row

/-- The name of a plugin, with a link if it has a wiki page. -/
def nameCell (plugin : Plugin) : String :=
  match plugin.wiki with
  | some wiki => if wiki = "" then plugin.id else s!"[{plugin.id}|{wiki}]"
  | none => plugin.id

/-- The number of changes with the page that shows them. -/
def sinceCell (count : Nat) (compareUrl : String) : String :=
  match count with
  | 0 => "|"
  | 1 => s!"[1 rev|{compareUrl}] | since"
  | n => s!"[{n} revs|{compareUrl}] | since"

/-- The days of the first and the last change, one day when they are the same. -/
def datesCell (first last : Option Calendar.Date) (today : Calendar.Date) : String :=
  match first, last with
  | some a, some b =>
    if a = b then colorize a today else s!"{colorize a today} to {colorize b today}"
  | _, _ => ""

/-- The row of a released plugin. -/
def released (plugin : Plugin) (collected : Collected) (c : Classification)
    (today : Calendar.Date) : Row where
  line :=
    let since := sinceCell c.count collected.compareUrl
    let dates := datesCell c.firstDate c.lastDate today
    s!"| {nameCell plugin} | {since} {collected.version} | {dates} | {c.label}"
  label := c.label

/-- The row of a repository that was never released. -/
def unreleased (name url label : String) : Row where
  line := s!"| [{name}|{url}] | | | {label}"
  label := label

/-- The characters in front of a line that do not count when rows are ordered. -/
def isLineMark (c : Char) : Bool := c = '|' || c = ' ' || c = '['

/-- What rows are ordered by: the line from its name on, in lower case. -/
def sortKey (row : Row) : String :=
  Text.onChars (fun line => Text.lower (line.dropWhile isLineMark)) row.line

end Row

end ReleaseGap.Report
