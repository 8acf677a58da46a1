import ReleaseGap.Change.Revision
import ReleaseGap.Xml.Record

/-!
# Logs of svn

The changes in a log document.  A missing message is empty, and an entry without a readable date is
left out.
-/

namespace ReleaseGap.Svn

open Xml (Content)

/-- The text of a field, empty if it is missing. -/
def textField? (record : Xml.Record) (name : String) : Option String := do
  match ← record.field? name with
  | none => return ""
  | some c => return String.ofList (← c.string?)

/-- The date and the message of an entry. -/
def partsOfEntry? (entry : Content) : Option (String × String) := do
  let record ← entry.record?
  guard (record.isPassableBut ["date", "msg"])
  return (← textField? record "date", ← textField? record "msg")

/-- The changes in a log, in order. -/
def readLog? (document : String) : Option (List Revision) := do
  let record ← (← Content.read document.toList).record?
  guard (record.isPassableBut ["logentry"])
  let entries ← (← record.fields? "logentry").mapM partsOfEntry?
  return entries.filterMap fun (date, message) => Revision.ofLeadingDay? date message

end ReleaseGap.Svn
