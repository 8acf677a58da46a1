import ReleaseGap.Toml.Layout

/-!
# TOML strings

The four kinds of strings: with and without escapes, on one line and on several.  Several lines keep
their ends as they are written, except one behind the opening quotes.
-/

namespace ReleaseGap.Toml

def hexDigit? (c : Char) : Option Nat :=
  if '0' ≤ c && c ≤ '9' then some (c.toNat - '0'.toNat)
  else if 'a' ≤ c && c ≤ 'f' then some (c.toNat - 'a'.toNat + 10)
  else if 'A' ≤ c && c ≤ 'F' then some (c.toNat - 'A'.toNat + 10)
  else none

/-- Reads a character by a number of hexadecimal digits. -/
def hexChar? (count : Nat) (s : List Char) : Option (Char × List Char) := do
  let digits := s.take count
  guard (digits.length = count)
  let n ← digits.foldlM (fun n c => (hexDigit? c).map fun d => n * 16 + d) 0
  guard n.isValidChar
  return (Char.ofNat n, s.drop count)

/-- Reads an escape behind its backslash. -/
def escape? : List Char → Option (Char × List Char)
  | 'b' :: r => some ('\x08', r)
  | 't' :: r => some ('\t', r)
  | 'n' :: r => some ('\n', r)
  | 'f' :: r => some ('\x0c', r)
  | 'r' :: r => some ('\r', r)
  | 'e' :: r => some ('\x1b', r)
  | '"' :: r => some ('"', r)
  | '\\' :: r => some ('\\', r)
  | 'x' :: r => hexChar? 2 r
  | 'u' :: r => hexChar? 4 r
  | 'U' :: r => hexChar? 8 r
  | _ => none

/-- Reads a string without escapes behind its quote. -/
def literal? (s : List Char) : Option (List Char × List Char) :=
  let body := s.takeWhile (· ≠ '\'')
  match s.dropWhile (· ≠ '\'') with
  | _ :: r => if body.any isControl then none else some (body, r)
  | [] => none

/-- Reads a string with escapes behind its quote; `fuel` bounds its length. -/
def basic? : Nat → List Char → Option (List Char × List Char)
  | 0, _ => none
  | fuel + 1, s =>
    match s with
    | [] => none
    | '"' :: r => some ([], r)
    | '\\' :: r => do
      let (c, r) ← escape? r
      let (text, r) ← basic? fuel r
      return (c :: text, r)
    | c :: r =>
      if isControl c then none else (basic? fuel r).map fun (text, r) => (c :: text, r)

/-- Drops one line end behind opening quotes. -/
def dropNewline (s : List Char) : List Char := (newline? s).getD s

/-- The end of a string of several lines at three or more quotes: up to two of them belong to the
string. -/
def closing? (quote : Char) (s : List Char) : Option (List Char × List Char) :=
  let quotes := ((s.take 5).takeWhile (· = quote)).length
  if quotes < 3 then none else some (List.replicate (quotes - 3) quote, s.drop quotes)

/-- Reads a string of several lines without escapes. -/
def literalLines? : List Char → Option (List Char × List Char)
  | [] => none
  | c :: r =>
    match closing? '\'' (c :: r) with
    | some found => some found
    | none =>
      if isControl c && c ≠ '\n' && !(c = '\r' && r.head? = some '\n') then none
      else (literalLines? r).map fun (text, rest) => (c :: text, rest)

/-- Skips the line end behind a backslash with all white space and empty lines; a line end has to be
there. -/
def joined? (s : List Char) : Option (List Char) := do
  let s ← newline? (skipSpace s)
  skip s.length s
where
  /-- Skips white space and line ends; `fuel` bounds their number. -/
  skip : Nat → List Char → Option (List Char)
    | 0, s => some s
    | fuel + 1, s =>
      match s with
      | c :: r =>
        if isSpace c || c = '\n' then skip fuel r
        else if c = '\r' then (newline? (c :: r)).bind (skip fuel)
        else some (c :: r)
      | [] => some []

/-- Reads a string of several lines with escapes; `fuel` bounds its length. -/
def basicLines? : Nat → List Char → Option (List Char × List Char)
  | 0, _ => none
  | fuel + 1, s =>
    match closing? '"' s with
    | some found => some found
    | none =>
      match s with
      | [] => none
      | '\\' :: r =>
        match joined? r with
        | some r => basicLines? fuel r
        | none => do
          let (c, r) ← escape? r
          let (text, rest) ← basicLines? fuel r
          return (c :: text, rest)
      | c :: r =>
        if isControl c && c ≠ '\n' && !(c = '\r' && r.head? = some '\n') then none
        else (basicLines? fuel r).map fun (text, rest) => (c :: text, rest)

/-- Reads a string on one line. -/
def lineString? : List Char → Option (List Char × List Char)
  | '"' :: r => basic? (r.length + 1) r
  | '\'' :: r => literal? r
  | _ => none

/-- Reads a string of any kind. -/
def string? (s : List Char) : Option (List Char × List Char) :=
  match s with
  | '"' :: '"' :: '"' :: r => let r := dropNewline r; basicLines? (r.length + 1) r
  | '\'' :: '\'' :: '\'' :: r => literalLines? (dropNewline r)
  | s => lineString? s

end ReleaseGap.Toml
