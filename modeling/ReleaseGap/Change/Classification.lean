import ReleaseGap.Change.Message
import ReleaseGap.Change.Revision
import ReleaseGap.Overrides.Table
import ReleaseGap.Settings.Basic

/-!
# Classification

The label of a plugin's changes since its release.  Commits of release tooling never count; an entry
of the operator's table for the plugin, its version and the number of changes supplies the label and
is used up by it.
-/

namespace ReleaseGap

/-- The label of a plugin without changes. -/
def currentLabel : String := "CURRENT"

/-- The tracker and the project that issue numbers belong to. -/
structure Classifier where
  trackerUrl : String
  project : String

def Classifier.ofSettings (s : Settings.Issues) : Classifier :=
  ⟨Text.dropEndSlashes s.url, s.project⟩

/-- The link to an issue. -/
def Classifier.issueLink (c : Classifier) (number : String) : String :=
  s!"[{number}|{c.trackerUrl}/{c.project}-{number}]"

/-- A link for each issue that a message says is fixed. -/
def Classifier.issueLinks (c : Classifier) (message : String) : List String :=
  (Message.fixedIssues message.toList).map c.issueLink

/-- What is known of a plugin's changes. -/
structure Classification where
  count : Nat
  /-- Links to fixed issues, repeated ones included. -/
  fixed : List String
  /-- How many of the changes are localizations. -/
  localized : Nat
  firstDate : Option Calendar.Date
  lastDate : Option Calendar.Date
  label : String
deriving DecidableEq

namespace Classification

/-- Whether all changes are localizations, and there are some. -/
def isLocalizationOnly (c : Classification) : Bool := 0 < c.count && c.localized == c.count

/-- The key of the operator's entry for a plugin at a version with a number of changes. -/
def key (id version : String) (count : Nat) : String := s!"{id}-{version}-{count}"

/-- The label that the changes give when the operator has none. -/
def ownLabel (count localized : Nat) (fixed : List String) : String :=
  if count = 0 then currentLabel
  else
    let what :=
      if !fixed.isEmpty then "Fixed: " ++ Text.joinWith " " fixed
      else if localized = count then "~CURRENT --"
      else ""
    if 0 < localized then what ++ " l10n" else what

/-- What a label ends with when the release found is not the one declared. -/
def mismatchNote (declared resolved : String) : String :=
  if resolved = "" ∨ resolved = declared then ""
  else s!" (_Version mismatch: json has {declared}_)"

end Classification

/-- Classifies the changes of a plugin.  The table comes back without the entry that was used. -/
def Classifier.classify (c : Classifier) (id declared resolved : String)
    (revisions : List Revision) (known : Overrides.Table) : Classification × Overrides.Table :=
  let counted := revisions.filter fun r => !Message.isReleaseNoise r.message
  let count := counted.length
  let localized := counted.countP fun r => Message.isLocalization r.message
  let fixed := counted.flatMap fun r => c.issueLinks r.message
  let (entry, known) := known.take (Classification.key id resolved count)
  let label := match entry with
    | some entry => entry.content
    | none => Classification.ownLabel count localized fixed
  ({ count, fixed, localized
     firstDate := counted.head?.map (·.date)
     lastDate := counted.getLast?.map (·.date)
     label := label ++ Classification.mismatchNote declared resolved }, known)

end ReleaseGap
