import ReleaseGap.Calendar.Date
import ReleaseGap.Decimal.Numeral
import ReleaseGap.Toml.Text

/-!
# TOML numbers, dates and truth values

A value that is no string and holds no others is a word.  Of the words only integers are evaluated;
the others are checked.
-/

namespace ReleaseGap.Toml

/-- A word as a value. -/
inductive Scalar where
  | integer (n : Int)
  | other
deriving DecidableEq, Repr

/-- The digits of a number in a base, without the underscores that stand between two of them. -/
def digitsIn? (base : Nat) : List Char → Option (List Nat)
  | [] => none
  | [c] => (digit? c).map ([·])
  | c :: '_' :: r => do return (← digit? c) :: (← digitsIn? base r)
  | c :: r => do return (← digit? c) :: (← digitsIn? base r)
where
  /-- The value of a digit of the base. -/
  digit? (c : Char) : Option Nat := (hexDigit? c).filter (· < base)

def valueIn (base : Nat) (digits : List Nat) : Nat := digits.foldl (fun n d => n * base + d) 0

/-- Cuts a sign off. -/
def cutSign : List Char → Bool × List Char
  | '-' :: r => (true, r)
  | '+' :: r => (false, r)
  | r => (false, r)

/-- The digits of a decimal number, which begins with a zero only if it is zero. -/
def decimal? (s : List Char) : Option (List Nat) := do
  let digits ← digitsIn? 10 s
  guard (digits.length = 1 ∨ digits.head? ≠ some 0)
  return digits

/-- Reads an integer.  It has to fit into 128 bits. -/
def integer? (word : List Char) : Option Int :=
  let value := match word with
    | '0' :: 'x' :: r => (digitsIn? 16 r).map fun d => (valueIn 16 d : Int)
    | '0' :: 'o' :: r => (digitsIn? 8 r).map fun d => (valueIn 8 d : Int)
    | '0' :: 'b' :: r => (digitsIn? 2 r).map fun d => (valueIn 2 d : Int)
    | s =>
      let (negative, body) := cutSign s
      (decimal? body).map fun d => if negative then -(valueIn 10 d : Int) else valueIn 10 d
  value.filter fun n => -(Nat.pow 2 127) ≤ n ∧ n < Nat.pow 2 128

/-- Whether a word is a number with a fraction, an exponent or both, an infinity or not-a-number. -/
def isFloat (word : List Char) : Bool :=
  let (_, s) := cutSign word
  if s = "inf".toList || s = "nan".toList then true
  else
    let isExponent (c : Char) : Bool := c = 'e' || c = 'E'
    let mantissa := s.takeWhile (!isExponent ·)
    let exponent := s.dropWhile (!isExponent ·)
    let whole := mantissa.takeWhile (· ≠ '.')
    let fraction := mantissa.dropWhile (· ≠ '.')
    (decimal? whole).isSome
      && (fraction.isEmpty || (digitsIn? 10 (fraction.drop 1)).isSome)
      && (exponent.isEmpty || (digitsIn? 10 (cutSign (exponent.drop 1)).2).isSome)
      && !(fraction.isEmpty && exponent.isEmpty)

/-- Reads a number of a fixed count of digits. -/
def fixed? (count : Nat) (s : List Char) : Option (Nat × List Char) :=
  (Decimal.digits? (s.take count)).bind fun n =>
    if (s.take count).length = count then some (n, s.drop count) else none

/-- Reads one given character. -/
def mark? (c : Char) : List Char → Option (List Char)
  | d :: r => if d = c then some r else none
  | [] => none

/-- Reads a date. -/
def date? (s : List Char) : Option (List Char) := do
  let (year, s) ← fixed? 4 s
  let (month, s) ← fixed? 2 (← mark? '-' s)
  let (day, s) ← fixed? 2 (← mark? '-' s)
  guard (1 ≤ day ∧ day ≤ Calendar.daysIn year month)
  return s

/-- Reads a time of day; seconds may be left out. -/
def time? (s : List Char) : Option (List Char) := do
  let (hour, s) ← fixed? 2 s
  let (minute, s) ← fixed? 2 (← mark? ':' s)
  guard (hour ≤ 23 ∧ minute ≤ 59)
  match s with
  | ':' :: s =>
    let (second, s) ← fixed? 2 s
    guard (second ≤ 60)
    match s with
    | '.' :: s => if s.head?.any Decimal.isDigit then return s.dropWhile Decimal.isDigit else none
    | s => return s
  | s => return s

/-- Reads an offset, if there is one. -/
def offset? (s : List Char) : Option (List Char) :=
  match s with
  | [] => some []
  | c :: r =>
    if c = 'Z' || c = 'z' then some r
    else if c = '+' || c = '-' then do
      let (hours, s) ← fixed? 2 r
      let (minutes, s) ← fixed? 2 (← mark? ':' s)
      guard (hours ≤ 23 ∧ minutes ≤ 59)
      return s
    else none

/-- Whether a word is a date, a time or both, with an offset if it is both. -/
def isDateTime (word : List Char) : Bool :=
  match date? word with
  | some [] => true
  | some (c :: r) =>
    (c = 'T' || c = 't' || c = ' ') && ((time? r).bind offset?) == some []
  | none => time? word == some []

/-- Reads a word. -/
def scalar? (word : List Char) : Option Scalar :=
  if word = "true".toList || word = "false".toList then some .other
  else match integer? word with
    | some n => some (.integer n)
    | none => if isFloat word || isDateTime word then some .other else none

/-- The characters of words. -/
def isWordChar (c : Char) : Bool :=
  c.isAlphanum || c = '+' || c = '-' || c = '_' || c = '.' || c = ':'

/-- Cuts a word off.  The space between a date and a time belongs to it. -/
def cutWord (s : List Char) : List Char × List Char :=
  let word := s.takeWhile isWordChar
  let rest := s.dropWhile isWordChar
  match rest with
  | ' ' :: c :: r =>
    if date? word == some [] && Decimal.isDigit c then
      (word ++ ' ' :: (c :: r).takeWhile isWordChar, (c :: r).dropWhile isWordChar)
    else (word, rest)
  | _ => (word, rest)

end ReleaseGap.Toml
