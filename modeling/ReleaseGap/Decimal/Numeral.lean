/-!
# Numerals

Decimal numerals read as natural numbers and as integers within bounds.  A numeral is ASCII digits
with at most one sign in front; nothing may surround it.
-/

namespace ReleaseGap.Decimal

def isDigit (c : Char) : Bool := '0' ≤ c && c ≤ '9'

def digitValue (c : Char) : Nat := c.toNat - '0'.toNat

/-- The value of a digit string. -/
def valueOf (s : List Char) : Nat := s.foldl (fun n c => n * 10 + digitValue c) 0

/-- A text of one or more digits. -/
def digits? (s : List Char) : Option Nat :=
  if s.isEmpty || !s.all isDigit then none else some (valueOf s)

/-- A numeral with an optional plus sign, below `bound`. -/
def natBelow? (bound : Nat) (s : List Char) : Option Nat :=
  let body := match s with
    | '+' :: r => r
    | r => r
  (digits? body).filter (· < bound)

/-- A numeral with an optional sign, from `-bound` up to below `bound`. -/
def intWithin? (bound : Nat) (s : List Char) : Option Int :=
  match s with
  | '-' :: r => ((digits? r).filter (· ≤ bound)).map fun n => -(n : Int)
  | r => (natBelow? bound r).map Int.ofNat

/-- An integer as it is written. -/
def intText (i : Int) : String := toString i

end ReleaseGap.Decimal
