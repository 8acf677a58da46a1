import ReleaseGap.Calendar.Moment
import ReleaseGap.Decimal.Numeral
import ReleaseGap.Text.Blank

/-!
# Reading days

Two readers of days.  `timestampDay?` takes a whole timestamp with date, time of day and offset as a
moment in universal time and answers its day on the clock it was read from.  `leadingDay?` takes the
ten octets at the front of a text and reads them leniently: blanks may stand before a number, a
number may be short, and a year may carry a sign.
-/

namespace ReleaseGap.Calendar

open Decimal (isDigit)

/-- Reads a run of at least `least` and at most `most` digits. -/
def number? (least most : Nat) (s : List Char) : Option (Nat × List Char) :=
  let run := (s.take most).takeWhile isDigit
  if run.length < least then none
  else some (Decimal.valueOf run, s.drop run.length)

/-- Reads one given character. -/
def literal? (c : Char) : List Char → Option (List Char)
  | d :: r => if d = c then some r else none
  | [] => none

/-- Reads one character out of a class. -/
def oneOf? (p : Char → Bool) : List Char → Option (Char × List Char)
  | d :: r => if p d then some (d, r) else none
  | [] => none

/-- Reads a year of four digits, a month and a day of two, with hyphens between them. -/
def fullDate? (s : List Char) : Option ((Nat × Nat × Nat) × List Char) := do
  let (year, s) ← number? 4 4 s
  let s ← literal? '-' s
  let (month, s) ← number? 2 2 s
  let s ← literal? '-' s
  let (day, s) ← number? 2 2 s
  return ((year, month, day), s)

/-- Reads a fraction of a second, if one is there. -/
def fraction? : List Char → Option (List Char)
  | '.' :: s => do
    let (_, s) ← number? 1 9 s
    return s.dropWhile isDigit
  | s => some s

/-- Reads a time of day as whole seconds since midnight.  The sixtieth second is a leap second; it
counts into the second before it. -/
def timeOfDay? (s : List Char) : Option (Nat × List Char) := do
  let (hour, s) ← number? 2 2 s
  let s ← literal? ':' s
  let (minute, s) ← number? 2 2 s
  let s ← literal? ':' s
  let (second, s) ← number? 2 2 s
  guard (hour ≤ 23 ∧ minute ≤ 59 ∧ second ≤ 60)
  let s ← fraction? s
  return (hour * 3600 + minute * 60 + min second 59, s)

/-- Reads an offset as the minutes ahead of universal time: a `Z`, or a sign, hours and minutes of
less than a day. -/
def offset? (s : List Char) : Option (Int × List Char) :=
  match s with
  | 'Z' :: s | 'z' :: s => some (0, s)
  | s => do
    let (sign, s) ← oneOf? (fun c => c = '+' ∨ c = '-' ∨ c = '−') s
    let (hour, s) ← number? 2 2 s
    let s ← literal? ':' s
    let (minute, s) ← number? 2 2 s
    guard (hour ≤ 23 ∧ minute ≤ 59)
    let distance : Int := hour * 60 + minute
    return (if sign = '+' then distance else -distance, s)

/-- The moment that a timestamp such as `2011-03-04T10:20:30Z` names, on the clock it was read
from. -/
def timestampMoment? (timestamp : String) : Option Moment := do
  let ((year, month, day), s) ← fullDate? timestamp.toList
  let (_, s) ← oneOf? (fun c => c = 't' ∨ c = 'T' ∨ c = ' ') s
  let (second, s) ← timeOfDay? s
  let (offset, s) ← offset? s
  guard (s = [])
  let date ← Date.of? year month day
  Moment.ofSeconds? (date.number * 86400 + second - offset * 60) offset

/-- The day of a timestamp, on the clock it was read from. -/
def timestampDay? (timestamp : String) : Option Date :=
  (timestampMoment? timestamp).map Moment.date

/-- The characters that fill the first `octets` octets; none if a character lies across the cut or
the text is shorter. -/
def leadingOctets? : Nat → List Char → Option (List Char)
  | 0, _ => some []
  | _ + 1, [] => none
  | n + 1, c :: r =>
    if c.utf8Size ≤ n + 1 then
      (leadingOctets? (n + 1 - c.utf8Size) r).map (c :: ·)
    else none

/-- Reads a year after blanks: four digits at most without a sign, any number of digits with one. -/
def lenientYear? (s : List Char) : Option (Int × List Char) :=
  match Text.trimStart s with
  | '-' :: r => (number? 1 r.length r).map fun (n, r) => (-(n : Int), r)
  | '+' :: r => (number? 1 r.length r).map fun (n, r) => ((n : Int), r)
  | r => (number? 1 4 r).map fun (n, r) => ((n : Int), r)

/-- Reads a number of one or two digits after blanks. -/
def lenientPart? (s : List Char) : Option (Nat × List Char) :=
  number? 1 2 (Text.trimStart s)

/-- Reads a whole text as year, month and day between hyphens, each leniently. -/
def lenientDay? (s : List Char) : Option Date := do
  let (year, s) ← lenientYear? s
  let s ← literal? '-' s
  let (month, s) ← lenientPart? s
  let s ← literal? '-' s
  let (day, s) ← lenientPart? s
  guard (s = [])
  Date.of? year month day

/-- The day in the first ten octets of a text. -/
def leadingDay? (timestamp : String) : Option Date := do
  let lead ← leadingOctets? 10 timestamp.toList
  lenientDay? lead

end ReleaseGap.Calendar
