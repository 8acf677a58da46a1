import ReleaseGap.Decimal.Numeral
import ReleaseGap.Tag.SvnIndex
import ReleaseGap.Xml.Record

/-!
# Listings of svn directories

Listings as a document, with the revision of each entry, and as lines of names.
-/

namespace ReleaseGap.Svn

open Xml (Content)

/-- The revision of an entry's last change. -/
def commitRevision? (commit : Content) : Option UInt64 := do
  let record ← commit.record?
  guard (record.isPassableBut [])
  let revision ← Decimal.natBelow? (Nat.pow 2 64) (← record.attribute? "revision")
  return UInt64.ofNat revision

def tagOf? (entry : Content) : Option SvnTag := do
  let record ← entry.record?
  guard (record.isPassableBut ["name", "commit"])
  let name ← (← (← record.field? "name")).string?
  let revision ← commitRevision? (← (← record.field? "commit"))
  return ⟨String.ofList name, revision⟩

def tagsOfList? (list : Content) : Option (List SvnTag) := do
  let record ← list.record?
  guard (record.isPassableBut ["entry"])
  (← record.fields? "entry").mapM tagOf?

/-- The entries of all lists in a document, in order. -/
def readTags? (document : String) : Option (List SvnTag) := do
  let record ← (← Content.read document.toList).record?
  guard (record.isPassableBut ["list"])
  let lists ← (← record.fields? "list").mapM tagsOfList?
  return lists.flatten

/-- The directory that a line names: it ends with a slash. -/
def directoryOfLine? (line : List Char) : Option String :=
  match (Text.trimEnd line).reverse with
  | '/' :: c :: name => some (String.ofList (c :: name).reverse)
  | _ => none

/-- The directories among the lines of a listing. -/
def directories (listing : String) : List String :=
  (Text.lines listing.toList).filterMap directoryOfLine?

end ReleaseGap.Svn
