import ReleaseGap.Files.Error
import ReleaseGap.Files.Path
import ReleaseGap.Text.Cut
import ReleaseGap.Text.Utf8

/-!
# File trees

Files, directories and links by the names on the way from the root, and the directory that relative
paths start from.  Paths are followed name by name, so that what one passes through has to be there
and has to be a directory that may be searched.
-/

namespace ReleaseGap.Files

inductive Node where
  /-- A directory.  Without the right to search it no name in it can be looked up. -/
  | directory (searchable : Bool := true) (readable : Bool := true)
  | file (octets : List UInt8)
  /-- A file that may not be read. -/
  | locked
  /-- A link to a path, which need not lead to anything. -/
  | link (target : String)
deriving DecidableEq, Repr

/-- What is read of a node as a text.  Links are followed before anything is read. -/
def Node.text : Node → Except IoError String
  | .directory _ readable => .error (if readable then .isDirectory else .denied)
  | .file octets =>
    match Text.Utf8.decode? octets with
    | none => .error .notUtf8
    | some content => .ok content
  | .locked => .error .denied
  | .link _ => .error .linkLoop

structure Tree where
  nodes : List (List String × Node) := []
  current : List String := []

/-- The most octets that a name can have. -/
def nameLimit : Nat := 255

/-- The most octets that a path can have. -/
def pathLimit : Nat := 4095

/-- The most links that are followed on the way along one path. -/
def linkLimit : Nat := 40

/-- Where a path starts, seen from a place, and the names in it. -/
def origin (place : List String) (path : String) : List String × List String :=
  match (Text.fields '/' path.toList).map String.ofList with
  | "" :: names => ([], names)
  | names => (place, names)

namespace Tree

/-- The path of the directory that relative paths start from. -/
def currentPath (t : Tree) : String := "/" ++ Text.joinWith "/" t.current

/-- What is at a place.  Whatever has something below it is a directory. -/
def at? (t : Tree) (place : List String) : Option Node :=
  match t.nodes.lookup place with
  | some n => some n
  | none =>
    if place.isEmpty || t.nodes.any fun n => place.isPrefixOf n.1 then some .directory else none

/-- Follows names from a place.  At a link, `jump` goes on with its target: from the place that the
link is in, and with the names behind it. -/
def walk (t : Tree) (jump : String → List String → List String → Except IoError Node)
    (place : List String) : List String → Except IoError Node
  | [] =>
    match t.at? place with
    | none => .error .missing
    | some (.link target) => jump target place.dropLast []
    | some node => .ok node
  | name :: rest =>
    match t.at? place with
    | none => .error .missing
    | some (.link target) => jump target place.dropLast (name :: rest)
    | some (.file _) => .error .notDirectory
    | some .locked => .error .notDirectory
    | some (.directory searchable _) =>
      if name = "" then t.walk jump place rest
      else if !searchable then .error .denied
      else if name = "." then t.walk jump place rest
      else if name = ".." then t.walk jump place.dropLast rest
      else if nameLimit < name.utf8ByteSize then .error .nameTooLong
      else t.walk jump (place ++ [name]) rest

/-- Follows names from a place, through so many links at most. -/
def follow (t : Tree) : Nat → List String → List String → Except IoError Node
  | 0 => t.walk fun _ _ _ => .error .linkLoop
  | links + 1 => t.walk fun target place rest =>
    t.follow links (origin place target).1 ((origin place target).2 ++ rest)

/-- What a path leads to. -/
def resolve (t : Tree) (path : String) : Except IoError Node :=
  if path.toList.contains '\x00' then .error .nulInName
  else if path = "" then .error .missing
  else if pathLimit < path.utf8ByteSize then .error .nameTooLong
  else t.follow linkLimit (origin t.current path).1 (origin t.current path).2

/-- Whether a path leads to something, as far as that can be told: what cannot be looked at does not
count. -/
def exists? (t : Tree) (path : String) : Bool :=
  match t.resolve path with
  | .ok _ => true
  | .error _ => false

/-- Reads a file as a text. -/
def readText (t : Tree) (path : String) : Except IoError String := t.resolve path >>= Node.text

end Tree

end ReleaseGap.Files
