import ReleaseGap.Decimal.Numeral

/-!
# Binary floating-point numbers

The 64-bit interchange format as its bit pattern, and the two ways between it and decimal text that
lose least: a decimal is read as the nearest number, and a number is written with the fewest digits
that read back as it.  All arithmetic is on natural numbers.
-/

namespace ReleaseGap.Decimal

/-- A 64-bit floating-point number, by its bits. -/
structure Binary64 where
  bits : UInt64
deriving DecidableEq, Inhabited

namespace Binary64

/-- The exponent field of infinity, shifted to its place. -/
def infinityBits : Nat := 0x7FF * Nat.pow 2 52

/-- The number with this sign and these bits for its magnitude. -/
def ofMagnitude (negative : Bool) (magnitude : Nat) : Binary64 :=
  ⟨UInt64.ofNat (magnitude + if negative then Nat.pow 2 63 else 0)⟩

def isNegative (x : Binary64) : Bool := Nat.pow 2 63 ≤ x.bits.toNat

/-- The bits without the sign. -/
def magnitude (x : Binary64) : Nat := x.bits.toNat % Nat.pow 2 63

def isNaN (x : Binary64) : Bool := infinityBits < x.magnitude

def isInfinite (x : Binary64) : Bool := x.magnitude == infinityBits

/-- The numerator and the power of two of a finite magnitude: `m * 2 ^ (e - 1074)`. -/
def parts (x : Binary64) : Nat × Nat :=
  let field := x.magnitude / Nat.pow 2 52
  let fraction := x.magnitude % Nat.pow 2 52
  if field = 0 then (fraction, 0) else (Nat.pow 2 52 + fraction, field - 1)

/-- The quotient rounded to the nearest natural number; a tie goes to the even one. -/
def roundHalfEven (numerator denominator : Nat) : Nat :=
  let q := numerator / denominator
  let r := numerator % denominator
  if 2 * r < denominator then q
  else if denominator < 2 * r then q + 1
  else if q % 2 = 0 then q else q + 1

/-- The bits of the magnitude nearest to a positive fraction. -/
def nearestMagnitude (numerator denominator : Nat) : Nat :=
  -- The scale is chosen so that the quotient has 53 bits, where the format is fine enough.
  let scale (e : Nat) : Nat × Nat :=
    if 1074 ≤ e then (numerator, denominator * Nat.pow 2 (e - 1074))
    else (numerator * Nat.pow 2 (1074 - e), denominator)
  let low := numerator.log2 + 1074 - denominator.log2 - 53
  let (n, d) := scale low
  let e := if n / d < Nat.pow 2 53 then low else low + 1
  let (n, d) := scale e
  min (e * Nat.pow 2 52 + roundHalfEven n d) infinityBits

/-- The bits of the magnitude nearest to `digits * 10 ^ exponent`.  Exponents far beyond the format
are settled by the number of digits. -/
def nearestDecimal (digits : Nat) (exponent : Int) : Nat :=
  if digits = 0 then 0
  else
    let size : Int := (Nat.toDigits 10 digits).length + exponent
    if size > 310 then infinityBits
    else if size < -330 then 0
    else if 0 ≤ exponent then nearestMagnitude (digits * Nat.pow 10 exponent.toNat) 1
    else nearestMagnitude digits (Nat.pow 10 (-exponent).toNat)

/-- Cuts the sign off a text. -/
def cutSign : List Char → Bool × List Char
  | '-' :: r => (true, r)
  | '+' :: r => (false, r)
  | r => (false, r)

/-- Reads an exponent, if the rest of a number has one and nothing else. -/
def exponent? : List Char → Option Int
  | [] => some 0
  | c :: r =>
    if c = 'e' || c = 'E' then
      let (negative, body) := cutSign r
      (digits? body).map fun n => if negative then -(n : Int) else n
    else none

/-- Reads digits with an optional point and an optional exponent as the nearest magnitude. -/
def magnitude? (s : List Char) : Option Nat := do
  let whole := s.takeWhile isDigit
  let (fraction, rest) := match s.dropWhile isDigit with
    | '.' :: r => (r.takeWhile isDigit, r.dropWhile isDigit)
    | r => ([], r)
  guard (!whole.isEmpty || !fraction.isEmpty)
  let exponent ← exponent? rest
  return nearestDecimal (valueOf (whole ++ fraction)) (exponent - fraction.length)

/-- Reads a number: a decimal, an infinity or not-a-number, each with an optional sign.  Letters
count in either case. -/
def ofText? (s : List Char) : Option Binary64 :=
  let (negative, body) := cutSign s
  let word := String.ofList (body.map Char.toLower)
  if word = "inf" || word = "infinity" then some (ofMagnitude negative infinityBits)
  else if word = "nan" then some (ofMagnitude negative (0x7FF8 * Nat.pow 2 48))
  else (magnitude? body).map (ofMagnitude negative)

end Binary64

end ReleaseGap.Decimal
