import ReleaseGap.Text.Cut

/-!
# Tag rules

An operator's rule for the tags of a plugin: what its tags begin with, where the version is to be
read, and what may follow the version number.  The fields of a rule stand between bars.
-/

namespace ReleaseGap

/-- Where the version of a tagged release is to be read. -/
inductive VersionSource where
  | asTagged
  /-- In the project descriptor of a directory. -/
  | descriptor (directory : String)
deriving DecidableEq, Repr

structure TagRule where
  /-- What tags begin with in the place of the plugin's id. -/
  base : String
  source : VersionSource
  /-- A pattern of what may follow the version number. -/
  suffix : String
deriving DecidableEq, Repr

namespace TagRule

/-- The field that says that tags carry the version itself. -/
def asTaggedMark : String := "VER_OK"

/-- Reads the field that says where the version is. -/
def readSource (field : Option String) : VersionSource :=
  match field with
  | none => .asTagged
  | some s => if s = "" ∨ s = asTaggedMark then .asTagged else .descriptor s

/-- Reads a rule.  Fields behind the third count for nothing. -/
def ofText (rule : String) : TagRule :=
  let fields := (Text.fields '|' rule.toList).map fun f => String.ofList (Text.trim f)
  { base := fields.headD ""
    source := readSource fields[1]?
    suffix := fields[2]?.getD "" }

end TagRule

end ReleaseGap
