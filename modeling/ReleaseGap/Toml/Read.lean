import ReleaseGap.Toml.Scalar
import ReleaseGap.Toml.Table

/-!
# Reading TOML

A document is read line by line: keys with values, and headers that say which table the keys behind
them belong to.
-/

namespace ReleaseGap.Toml

def isBareKeyChar (c : Char) : Bool := c.isAlphanum || c = '_' || c = '-'

/-- Reads a part of a key. -/
def simpleKey? (s : List Char) : Option (String × List Char) :=
  match s with
  | c :: _ =>
    if c = '"' || c = '\'' then (lineString? s).map fun (text, r) => (String.ofList text, r)
    else if isBareKeyChar c then
      some (String.ofList (s.takeWhile isBareKeyChar), s.dropWhile isBareKeyChar)
    else none
  | [] => none

/-- A key: the tables on the way, and the last part. -/
structure Key where
  path : List String
  last : String

/-- Reads a key with white space around its parts; `fuel` bounds their number. -/
def key? : Nat → List Char → Option (Key × List Char)
  | 0, _ => none
  | fuel + 1, s => do
    let (part, r) ← simpleKey? (skipSpace s)
    match skipSpace r with
    | '.' :: r =>
      let (key, r) ← key? fuel r
      return (⟨part :: key.path, key.last⟩, r)
    | r => return (⟨[], part⟩, r)

def readKey? (s : List Char) : Option (Key × List Char) := key? (s.length + 1) s

/-- How deep arrays and tables in braces may stand in each other. -/
def depthLimit : Nat := 80

mutual

/-- Reads a value; `fuel` bounds the number of steps and `depth` is what is left of the limit. -/
def value? : Nat → Nat → List Char → Option (Value × List Char)
  | 0, _, _ => none
  | fuel + 1, depth, s =>
    match s, depth with
    | '[' :: r, depth + 1 =>
      (items? fuel depth r).map fun (items, r) => (.array false items, r)
    | '\x7b' :: r, depth + 1 => inline? fuel depth (.table .header []) r
    | c :: _, _ =>
      if c = '"' || c = '\'' then (string? s).map fun (text, r) => (.text (String.ofList text), r)
      else
        let (word, r) := cutWord s
        (scalar? word).map fun
          | .integer n => (.integer n, r)
          | .other => (.other, r)
    | [], _ => none

/-- Reads the items of an array up to its closing bracket. -/
def items? : Nat → Nat → List Char → Option (List Value × List Char)
  | 0, _, _ => none
  | fuel + 1, depth, s => do
    match ← skipLayout? s with
    | ']' :: r => return ([], r)
    | s =>
      let (item, r) ← value? fuel depth s
      match ← skipLayout? r with
      | ']' :: r => return ([item], r)
      | ',' :: r =>
        let (items, r) ← items? fuel depth r
        return (item :: items, r)
      | _ => none

/-- Reads the keys and values of a table in braces up to its closing brace. -/
def inline? : Nat → Nat → Value → List Char → Option (Value × List Char)
  | 0, _, _, _ => none
  | fuel + 1, depth, table, s => do
    match ← skipLayout? s with
    | '\x7d' :: r =>
      match table with
      | .table _ entries => return (.table .inline entries, r)
      | _ => none
    | s =>
      let (key, r) ← readKey? s
      let r ← mark? '=' r
      let (value, r) ← value? fuel depth (skipSpace r)
      let table ← Value.addDotted? key.path key.last value table
      match ← skipLayout? r with
      | '\x7d' :: r => inline? fuel depth table ('\x7d' :: r)
      | ',' :: r => inline? fuel depth table r
      | _ => none

end

/-- Reads a value. -/
def readValue? (s : List Char) : Option (Value × List Char) :=
  value? (2 * s.length + 2) depthLimit s

/-- A document as far as it is read, and the path of the table that keys belong to. -/
structure Progress where
  document : Value := .table .header []
  current : List String := []

/-- Reads a header behind its first bracket. -/
def header? (p : Progress) (s : List Char) : Option (Progress × List Char) := do
  match s with
  | '[' :: r =>
    let (key, r) ← readKey? r
    let r ← mark? ']' (← mark? ']' r)
    let document ← p.document.extend? false (Value.addItem? key.last) key.path
    return (⟨document, key.path ++ [key.last]⟩, r)
  | r =>
    let (key, r) ← readKey? r
    let r ← mark? ']' r
    let document ← p.document.extend? false (Value.addHeader? key.last) key.path
    return (⟨document, key.path ++ [key.last]⟩, r)

/-- Reads a key and its value. -/
def assignment? (p : Progress) (s : List Char) : Option (Progress × List Char) := do
  let (key, r) ← readKey? s
  let r ← mark? '=' r
  let (value, r) ← readValue? (skipSpace r)
  let document ← p.document.within? (Value.addDotted? key.path key.last value) p.current
  return ({ p with document }, r)

/-- Reads the lines of a document; `fuel` bounds their number. -/
def lines? : Nat → Progress → List Char → Option Value
  | 0, p, _ => some p.document
  | fuel + 1, p, s =>
    match skipSpace s with
    | [] => some p.document
    | c :: r => do
      let (p, r) ← if c = '[' then header? p r
        else if c = '#' || c = '\n' || c = '\r' then some (p, c :: r)
        else assignment? p (c :: r)
      lines? fuel p (← lineEnd? r)

/-- Reads a document.  A byte order mark at its front is no part of it. -/
def read? (document : List Char) : Option Value :=
  let body := match document with
    | '\uFEFF' :: r => r
    | r => r
  lines? (body.length + 1) {} body

end ReleaseGap.Toml
