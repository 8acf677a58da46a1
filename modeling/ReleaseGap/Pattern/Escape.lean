import ReleaseGap.Decimal.Numeral
import ReleaseGap.Pattern.Basic
import ReleaseGap.Pattern.Fold
import ReleaseGap.Pattern.Property
import ReleaseGap.Text.Blank

/-!
# Single elements of patterns

The flags a pattern is read under, and its smallest parts: characters, escapes and named sets.
-/

namespace ReleaseGap.Pattern

/-- How a pattern is read. -/
structure Flags where
  ignoreCase : Bool := false
  multiLine : Bool := false
  dotAll : Bool := false
  swapGreed : Bool := false
  unicode : Bool := true
  /-- A carriage return ends a line as well. -/
  anyLineEnd : Bool := false
  /-- White space and comments in the pattern do not count. -/
  verbose : Bool := false
deriving DecidableEq, Repr

/-- Drops white space and comments. -/
def skipBlanks : List Char → List Char
  | [] => []
  | c :: r =>
    if Text.isBlank c then skipBlanks r
    else if c = '#' then skipComment r
    else c :: r
where
  /-- Drops the rest of a line. -/
  skipComment : List Char → List Char
    | [] => []
    | c :: r => if c = '\n' then skipBlanks r else skipComment r

/-- Drops what does not count in front of a pattern. -/
def Flags.skip (f : Flags) (s : List Char) : List Char := if f.verbose then skipBlanks s else s

/-- A smallest part of a pattern. -/
inductive Element where
  /-- A character, with a note whether it was written as an octet of two digits. -/
  | char (c : Char) (asOctet : Bool)
  | set (s : CharSet)
  | look (l : Look)
deriving Repr

/-- Folds a set, if case does not count. -/
def Flags.fold (f : Flags) (s : CharSet) : CharSet :=
  if f.ignoreCase then (if f.unicode then s.fold else s.foldAscii) else s

/-- The complement, if asked for.  A set of octets has none. -/
def Flags.negate? (f : Flags) (negated : Bool) (s : CharSet) : Option CharSet :=
  if !negated then some s else if f.unicode then some s.complement else none

def hexDigit? (c : Char) : Option Nat :=
  if '0' ≤ c && c ≤ '9' then some (c.toNat - '0'.toNat)
  else if 'a' ≤ c && c ≤ 'f' then some (c.toNat - 'a'.toNat + 10)
  else if 'A' ≤ c && c ≤ 'F' then some (c.toNat - 'A'.toNat + 10)
  else none

/-- The character with a code point. -/
def charOf? (n : Nat) : Option Char := if n.isValidChar then some (Char.ofNat n) else none

/-- Reads a number of hexadecimal digits. -/
def fixedHex? (f : Flags) (value : Nat) : Nat → List Char → Option (Nat × List Char)
  | 0, s => some (value, s)
  | _ + 1, [] => none
  | n + 1, c :: r => do
    let d ← hexDigit? c
    fixedHex? f (value * 16 + d) n (f.skip r)

/-- Reads hexadecimal digits up to a closing brace; `fuel` bounds their number. -/
def bracedHex? (f : Flags) (digits : List Nat) : Nat → List Char → Option (Nat × List Char)
  | 0, _ => none
  | fuel + 1, s =>
    match s with
    | '\x7d' :: r =>
      if digits.isEmpty then none
      else some (digits.reverse.foldl (fun n d => n * 16 + d) 0, f.skip r)
    | c :: r => do
      let d ← hexDigit? c
      bracedHex? f (d :: digits) fuel (f.skip r)
    | [] => none

/-- Reads the code point of a hexadecimal escape that has `count` digits when it has no braces. -/
def hexEscape? (f : Flags) (count : Nat) (s : List Char) : Option (Element × List Char) := do
  match f.skip s with
  | '\x7b' :: r =>
    let (n, r) ← bracedHex? f [] (r.length + 1) (f.skip r)
    return (.char (← charOf? n) false, r)
  | s =>
    let (n, r) ← fixedHex? f 0 count s
    return (.char (← charOf? n) (count == 2), r)

/-- Reads a name up to a closing brace; `fuel` bounds its length. -/
def bracedName? (f : Flags) (name : List Char) : Nat → List Char → Option (List Char × List Char)
  | 0, _ => none
  | fuel + 1, s =>
    match s with
    | '\x7d' :: r => some (name.reverse, r)
    | c :: r => bracedName? f (c :: name) fuel (f.skip r)
    | [] => none

/-- What stands before and after the first occurrence of a separator. -/
def splitAt? (separator : List Char) : List Char → Option (List Char × List Char)
  | [] => none
  | c :: r =>
    if separator.isPrefixOf (c :: r) then some ([], (c :: r).drop separator.length)
    else (splitAt? separator r).map fun (a, b) => (c :: a, b)

/-- The set that a name in braces stands for, with a note whether its complement is meant. -/
def namedSet? (name : List Char) : Option (CharSet × Bool) :=
  match splitAt? "!=".toList name with
  | some (p, v) => (setOfValue? p v).map (·, true)
  | none =>
    match (splitAt? ":".toList name).or (splitAt? "=".toList name) with
    | some (p, v) => (setOfValue? p v).map (·, false)
    | none => (setOfName? name).map (·, false)

/-- Reads the set of a property. -/
def propertyEscape? (f : Flags) (negated : Bool) (s : List Char) :
    Option (Element × List Char) := do
  let (name, r) ← match f.skip s with
    | '\x7b' :: r => bracedName? f [] (r.length + 1) (f.skip r)
    | c :: r => if c = '\\' then none else some ([c], f.skip r)
    | [] => none
  guard f.unicode
  let (set, unequal) ← namedSet? name
  let set ← f.negate? (negated != unequal) (f.fold set)
  return (.set set, r)

/-- The set of digits, spaces or word characters that a letter stands for; its capital means the
complement. -/
def shortSet? (f : Flags) (c : Char) : Option CharSet :=
  let set := match c.toLower with
    | 'd' => if f.unicode then digits else [(0x30, 0x39)]
    | 's' => if f.unicode then whiteSpace else [(9, 13), (0x20, 0x20)]
    | _ => if f.unicode then wordCharacters else CharSet.ofText "30-39 41-5A 5F 61-7A"
  f.negate? c.isUpper set

/-- The characters with a meaning of their own. -/
def isMeta (c : Char) : Bool := "\\.+*?()|[]\x7b\x7d^$#&-~".toList.contains c

/-- The characters that stand for themselves behind a backslash. -/
def isEscapable (c : Char) : Bool :=
  isMeta c || (c.toNat < 0x80 && !c.isAlphanum && c ≠ '<' && c ≠ '>')

/-- The name of a word edge in braces. -/
def edgeName? (f : Flags) (name : List Char) : Nat → List Char → Option (List Char × List Char)
  | 0, _ => none
  | fuel + 1, s =>
    match s with
    | '\x7d' :: r => some (name.reverse, r)
    | c :: r => if c.isAlpha || c = '-' then edgeName? f (c :: name) fuel (f.skip r) else none
    | [] => none

/-- Reads what follows the escape of a word boundary.  Braces belong to it if a letter or a hyphen
follows them, and to a repetition if not. -/
def wordBoundary? (f : Flags) (s : List Char) : Option (Look × List Char) := do
  let plain := some (.word .boundary (!f.unicode), s)
  match s with
  | '\x7b' :: r =>
    match f.skip r with
    | [] => none
    | c :: r =>
      if c.isAlpha || c = '-' then
        let (name, rest) ← edgeName? f [] (r.length + 2) (c :: r)
        let edge ← match String.ofList name with
          | "start" => some WordEdge.start
          | "end" => some .finish
          | "start-half" => some .startHalf
          | "end-half" => some .finishHalf
          | _ => none
        return (.word edge (!f.unicode), rest)
      else plain
  | _ => plain

/-- Reads an escape behind its backslash. -/
def escape? (f : Flags) : List Char → Option (Element × List Char)
  | [] => none
  | c :: r =>
    let ascii := !f.unicode
    match c with
    | 'x' => hexEscape? f 2 r
    | 'u' => hexEscape? f 4 r
    | 'U' => hexEscape? f 8 r
    | 'p' => propertyEscape? f false r
    | 'P' => propertyEscape? f true r
    | 'd' | 's' | 'w' | 'D' | 'S' | 'W' => (shortSet? f c).map fun s => (.set s, r)
    | 'a' => some (.char '\x07' false, r)
    | 'f' => some (.char '\x0c' false, r)
    | 't' => some (.char '\t' false, r)
    | 'n' => some (.char '\n' false, r)
    | 'r' => some (.char '\r' false, r)
    | 'v' => some (.char '\x0b' false, r)
    | 'A' => some (.look .textStart, r)
    | 'z' => some (.look .textEnd, r)
    | 'b' => (wordBoundary? f r).map fun (l, r) => (.look l, r)
    | 'B' => some (.look (.word .noBoundary ascii), r)
    | '<' => some (.look (.word .start ascii), r)
    | '>' => some (.look (.word .finish ascii), r)
    | c => if isEscapable c then some (.char c false, r) else none

end ReleaseGap.Pattern
