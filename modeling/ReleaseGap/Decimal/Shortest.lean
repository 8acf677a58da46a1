import ReleaseGap.Decimal.Binary64

/-!
# Shortest decimals

The decimal a floating-point number is written as: of the decimals that read back as the number one
with the fewest digits, of those the nearest, and of two equally near ones the greater.  The text is
positional, whatever the size of the number.
-/

namespace ReleaseGap.Decimal.Binary64

/-- Whether `numerator / denominator` reads back as the magnitude `m * 2 ^ (e - 1074)`. -/
def readsBack (m e : Nat) (numerator denominator : Nat) : Bool :=
  let x := ofMagnitude false (nearestMagnitude numerator denominator)
  decide (0 < numerator) && x.parts == (m, e)

/-- A decimal as a whole number times a power of ten. -/
structure Scaled where
  digits : Nat
  exponent : Int
deriving DecidableEq, Repr, Inhabited

/-- A fraction of the same value. -/
def Scaled.fraction (s : Scaled) : Nat × Nat :=
  if 0 ≤ s.exponent then (s.digits * Nat.pow 10 s.exponent.toNat, 1)
  else (s.digits, Nat.pow 10 (-s.exponent).toNat)

/-- The best decimal of a positive number `numerator / denominator` on the grid of multiples of
`10 ^ exponent`, if one reads back. -/
def onGrid (m e numerator denominator : Nat) (exponent : Int) : Option Scaled :=
  let (n, d) :=
    if 0 ≤ exponent then (numerator, denominator * Nat.pow 10 exponent.toNat)
    else (numerator * Nat.pow 10 (-exponent).toNat, denominator)
  let below : Scaled := ⟨n / d, exponent⟩
  let above : Scaled := ⟨n / d + 1, exponent⟩
  let fits (s : Scaled) : Bool := let (a, b) := s.fraction; readsBack m e a b
  match fits below, fits above with
  | true, true => if 2 * (n % d) < d then some below else some above
  | true, false => some below
  | false, true => some above
  | false, false => none

/-- The number of digits before the point of a positive fraction, negative when zeros follow the
point. -/
def pointPlace (numerator denominator : Nat) : Int :=
  if denominator ≤ numerator then (Nat.toDigits 10 (numerator / denominator)).length
  else 1 - ((Nat.toDigits 10 ((denominator - 1) / numerator)).length : Int)

/-- The shortest decimal of the positive magnitude `m * 2 ^ (e - 1074)`, looked for on ever finer
grids.  Seventeen digits always suffice. -/
def shortest (m e : Nat) : Scaled :=
  let (n, d) := if 1074 ≤ e then (m * Nat.pow 2 (e - 1074), 1) else (m, Nat.pow 2 (1074 - e))
  let place := pointPlace n d
  ((List.range 18).findSome? fun (k : Nat) => onGrid m e n d (place - (k : Int))).getD ⟨n, 0⟩

/-- Digits with a point after the first `place` of them, and zeros where digits are missing. -/
def positional (digits : List Char) (place : Int) : List Char :=
  if place ≤ 0 then '0' :: '.' :: List.replicate (-place).toNat '0' ++ digits
  else
    let whole := place.toNat
    if digits.length ≤ whole then digits ++ List.replicate (whole - digits.length) '0'
    else digits.take whole ++ '.' :: digits.drop whole

/-- A number as it is written. -/
def text (x : Binary64) : String :=
  if x.isNaN then "NaN"
  else
    let body :=
      if x.isInfinite then "inf".toList
      else if x.magnitude = 0 then ['0']
      else
        let (m, e) := x.parts
        let s := shortest m e
        let digits := Nat.toDigits 10 s.digits
        let kept := (digits.reverse.dropWhile (· == '0')).reverse
        positional kept (digits.length + s.exponent)
    String.ofList (if x.isNegative then '-' :: body else body)

end ReleaseGap.Decimal.Binary64
