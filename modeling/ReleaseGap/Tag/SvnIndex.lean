import ReleaseGap.Keyed
import ReleaseGap.Text.Cut

/-!
# The index of svn tags

Tag directories are named by an id, a hyphen and a version.  The index keeps for each id the tag
made in the newest revision.
-/

namespace ReleaseGap

/-- A tag directory and the revision of its last change. -/
structure SvnTag where
  name : String
  revision : UInt64
deriving DecidableEq, Repr

/-- The newest tag of one id. -/
structure SvnRelease where
  tag : String
  version : String
  revision : UInt64
deriving DecidableEq, Repr

/-- The newest tags by id. -/
structure SvnIndex where
  entries : List (String × SvnRelease) := []
  isOrdered : Keyed.IsOrdered entries := by exact Keyed.isOrdered_nil

/-- The id and the version in a tag name, which the last hyphen divides. -/
def SvnTag.parts? (tag : SvnTag) : Option (String × String) :=
  (Text.splitLast? '-' tag.name.toList).map fun (id, version) =>
    (String.ofList id, String.ofList version)

namespace SvnIndex

def get? (index : SvnIndex) (id : String) : Option SvnRelease := Keyed.find? id index.entries

/-- Adds a tag, unless one of its id is as new.  A name without hyphen is no tag of any id. -/
def add (index : SvnIndex) (tag : SvnTag) : SvnIndex :=
  match tag.parts? with
  | none => index
  | some (id, version) =>
    if (index.get? id).all (·.revision < tag.revision) then
      ⟨Keyed.insert id ⟨tag.name, version, tag.revision⟩ index.entries,
        Keyed.isOrdered_insert index.isOrdered⟩
    else index

def ofTags (tags : List SvnTag) : SvnIndex := tags.foldl add {}

/-- The newest tag of a plugin: under its id, its repository or its id with `-plugin` behind. -/
def lookup? (index : SvnIndex) (id repository : String) : Option SvnRelease :=
  (index.get? id).or ((index.get? repository).or (index.get? (id ++ "-plugin")))

def size (index : SvnIndex) : Nat := index.entries.length

def isEmpty (index : SvnIndex) : Bool := index.entries.isEmpty

end SvnIndex

end ReleaseGap
