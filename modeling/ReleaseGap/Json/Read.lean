import ReleaseGap.Decimal.Numeral
import ReleaseGap.Json.Value
import ReleaseGap.Text.Cut

/-!
# Reading JSON

A whole document is read, with nothing but white space around its value.
-/

namespace ReleaseGap.Json

def isSpace (c : Char) : Bool := c = ' ' || c = '\n' || c = '\t' || c = '\r'

def skipSpace (s : List Char) : List Char := s.dropWhile isSpace

/-- Drops one or more digits. -/
def someDigits? (s : List Char) : Option (List Char) :=
  if s.head?.any Decimal.isDigit then some (s.dropWhile Decimal.isDigit) else none

/-- Drops the whole part of a number: no other digit follows a leading zero. -/
def wholePart? : List Char → Option (List Char)
  | '0' :: r => if r.head?.any Decimal.isDigit then none else some r
  | s => someDigits? s

def fraction? : List Char → Option (List Char)
  | '.' :: r => someDigits? r
  | s => some s

def exponent? (s : List Char) : Option (List Char) :=
  match s with
  | e :: r =>
    if e = 'e' || e = 'E' then
      match r with
      | sign :: digits => someDigits? (if sign = '+' || sign = '-' then digits else r)
      | [] => none
    else some s
  | [] => some []

/-- Drops a number. -/
def number? (s : List Char) : Option (List Char) := do
  let s := match s with
    | '-' :: r => r
    | r => r
  exponent? (← fraction? (← wholePart? s))

/-- The value of a hexadecimal digit. -/
def hexDigit? (c : Char) : Option Nat :=
  if '0' ≤ c && c ≤ '9' then some (c.toNat - '0'.toNat)
  else if 'a' ≤ c && c ≤ 'f' then some (c.toNat - 'a'.toNat + 10)
  else if 'A' ≤ c && c ≤ 'F' then some (c.toNat - 'A'.toNat + 10)
  else none

/-- The character of a short escape. -/
def shortEscape? : Char → Option Char
  | '"' => some '"'
  | '\\' => some '\\'
  | '/' => some '/'
  | 'b' => some '\x08'
  | 'f' => some '\x0c'
  | 'n' => some '\n'
  | 'r' => some '\r'
  | 't' => some '\t'
  | _ => none

/-- A part of a string: a character, or a UTF-16 unit that an escape names. -/
inductive Unit16 where
  | char (c : Char)
  | unit (n : Nat)

/-- The units up to the quote that closes a string. -/
def units? : List Char → Option (List Unit16 × List Char)
  | [] => none
  | '"' :: r => some ([], r)
  | '\\' :: 'u' :: a :: b :: c :: d :: r => do
    let n :=
      (((← hexDigit? a) * 16 + (← hexDigit? b)) * 16 + (← hexDigit? c)) * 16 + (← hexDigit? d)
    let (units, rest) ← units? r
    return (.unit n :: units, rest)
  | '\\' :: e :: r => do
    let c ← shortEscape? e
    let (units, rest) ← units? r
    return (.char c :: units, rest)
  | c :: r =>
    if c.toNat < 0x20 ∨ c = '\\' then none
    else (units? r).map fun (units, rest) => (.char c :: units, rest)

def isHighSurrogate (n : Nat) : Bool := 0xD800 ≤ n && n < 0xDC00

def isLowSurrogate (n : Nat) : Bool := 0xDC00 ≤ n && n < 0xE000

/-- The characters of units, if every half of a surrogate pair stands beside its other half. -/
def characters? : List Unit16 → Option (List Char)
  | [] => some []
  | .char c :: r => (characters? r).map (c :: ·)
  | .unit n :: r =>
    if isHighSurrogate n then
      match r with
      | .unit m :: r =>
        if isLowSurrogate m then
          (characters? r).map (Char.ofNat (0x10000 + (n - 0xD800) * 0x400 + (m - 0xDC00)) :: ·)
        else none
      | _ => none
    else if isLowSurrogate n then none
    else (characters? r).map (Char.ofNat n :: ·)

/-- Reads a string behind its opening quote. -/
def string? (s : List Char) : Option (Option String × List Char) :=
  (units? s).map fun (units, rest) => ((characters? units).map String.ofList, rest)

mutual

/-- Reads a value; `fuel` bounds the number of steps. -/
def value? : Nat → List Char → Option (Value × List Char)
  | 0, _ => none
  | fuel + 1, s =>
    match s with
    | '"' :: r => (string? r).map fun (text, r) => (.string text, r)
    | '[' :: r =>
      match skipSpace r with
      | ']' :: r => some (.array [], r)
      | r => (items? fuel r).map fun (items, r) => (.array items, r)
    | '{' :: r =>
      match skipSpace r with
      | '}' :: r => some (.object [], r)
      | r => (members? fuel r).map fun (members, r) => (.object members, r)
    | 'n' :: _ => (Text.dropLead? "null".toList s).map fun r => (.null, r)
    | 't' :: _ => (Text.dropLead? "true".toList s).map fun r => (.bool true, r)
    | 'f' :: _ => (Text.dropLead? "false".toList s).map fun r => (.bool false, r)
    | _ => (number? s).map fun r => (.number, r)

/-- Reads the items of an array that has some, and its closing bracket. -/
def items? : Nat → List Char → Option (List Value × List Char)
  | 0, _ => none
  | fuel + 1, s => do
    let (item, r) ← value? fuel s
    match skipSpace r with
    | ']' :: r => return ([item], r)
    | ',' :: r =>
      let (items, r) ← items? fuel (skipSpace r)
      return (item :: items, r)
    | _ => none

/-- Reads the members of an object that has some, and its closing brace. -/
def members? : Nat → List Char → Option (List (Option String × Value) × List Char)
  | 0, _ => none
  | fuel + 1, s =>
    match s with
    | '"' :: r => do
      let (key, r) ← string? r
      match skipSpace r with
      | ':' :: r =>
        let (value, r) ← value? fuel (skipSpace r)
        match skipSpace r with
        | '}' :: r => return ([(key, value)], r)
        | ',' :: r =>
          let (members, r) ← members? fuel (skipSpace r)
          return ((key, value) :: members, r)
        | _ => none
      | _ => none
    | _ => none

end

/-- Reads a document. -/
def read? (document : List Char) : Option Value := do
  let (value, rest) ← value? (2 * document.length + 2) (skipSpace document)
  guard (skipSpace rest = [])
  return value

end ReleaseGap.Json
