import ReleaseGap.Xml.Event

/-!
# Attributes

The attributes of a tag: names with quoted values, in order, up to the first fault.  A value is kept
as it is written.
-/

namespace ReleaseGap.Xml

structure Attribute where
  name : List Char
  value : List Char
deriving DecidableEq, Repr

/-- The attributes up to the end of a tag or up to its first fault. -/
structure Attributes where
  list : List Attribute
  /-- Whether the end was reached. -/
  complete : Bool
deriving DecidableEq, Repr

/-- Reads one attribute, given its first character.  A name may begin with any character that is no
white space; it ends before an equals sign or white space. -/
def attribute? (first : Char) (s : List Char) : Option (Attribute × List Char) :=
  let ends (c : Char) : Bool := c = '=' || isSpace c
  let name := first :: s.takeWhile (!ends ·)
  match (s.dropWhile (!ends ·)).dropWhile isSpace with
  | '=' :: r =>
    match r.dropWhile isSpace with
    | q :: r =>
      if q = '"' ∨ q = '\'' then
        match r.dropWhile (· ≠ q) with
        | _ :: rest => some (⟨name, r.takeWhile (· ≠ q)⟩, rest)
        | [] => none
      else none
    | [] => none
  | _ => none

/-- Reads attributes; `fuel` bounds their number. -/
def attributesFrom : Nat → List Char → Attributes
  | 0, _ => ⟨[], true⟩
  | fuel + 1, s =>
    match s.dropWhile isSpace with
    | [] => ⟨[], true⟩
    | first :: r =>
      match attribute? first r with
      | none => ⟨[], false⟩
      | some (a, rest) =>
        let more := attributesFrom fuel rest
        { more with list := a :: more.list }

/-- The attributes of a tag. -/
def Tag.attributes (tag : Tag) : Attributes := attributesFrom tag.rest.length tag.rest

end ReleaseGap.Xml
