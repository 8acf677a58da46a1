import ReleaseGap.Calendar.Reading

/-!
# Revisions

A change made to a plugin's sources: its day and its message.
-/

namespace ReleaseGap

structure Revision where
  date : Calendar.Date
  message : String
deriving DecidableEq

/-- A revision whose day is read from a full timestamp. -/
def Revision.ofTimestamp? (timestamp message : String) : Option Revision :=
  (Calendar.timestampDay? timestamp).map (⟨·, message⟩)

/-- A revision whose day is read from the front of a timestamp. -/
def Revision.ofLeadingDay? (timestamp message : String) : Option Revision :=
  (Calendar.leadingDay? timestamp).map (⟨·, message⟩)

end ReleaseGap
