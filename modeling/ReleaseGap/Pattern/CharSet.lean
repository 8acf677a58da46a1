import ReleaseGap.Text.Cut

/-!
# Sets of characters

Sets of characters as ranges of code points, in order and with gaps between them.
-/

namespace ReleaseGap.Pattern

/-- Ranges of code points, both ends included. -/
abbrev CharSet := List (Nat × Nat)

namespace CharSet

def single (c : Char) : CharSet := [(c.toNat, c.toNat)]

def contains (s : CharSet) (c : Char) : Bool :=
  s.any fun (first, last) => first ≤ c.toNat && c.toNat ≤ last

/-- Joins ranges, ordered by their first members, that overlap or touch. -/
def join : List (Nat × Nat) → CharSet
  | (a, b) :: (c, d) :: rest =>
    if c ≤ b + 1 then join ((a, max b d) :: rest) else (a, b) :: join ((c, d) :: rest)
  | ranges => ranges
termination_by ranges => ranges.length

/-- The set of the members of some ranges. -/
def ofRanges (ranges : List (Nat × Nat)) : CharSet :=
  join (ranges.mergeSort fun a b => a.1 ≤ b.1)

def union (s t : CharSet) : CharSet := ofRanges (s ++ t)

/-- The greatest code point. -/
def last : Nat := 0x10FFFF

/-- The gaps between ranges from a code point on. -/
def gapsFrom (start : Nat) : CharSet → CharSet
  | [] => if start ≤ last then [(start, last)] else []
  | (a, b) :: rest =>
    if start < a then (start, a - 1) :: gapsFrom (b + 1) rest else gapsFrom (b + 1) rest

def complement (s : CharSet) : CharSet := gapsFrom 0 s

def inter (s t : CharSet) : CharSet := complement (union (complement s) (complement t))

def diff (s t : CharSet) : CharSet := inter s (complement t)

def symmDiff (s t : CharSet) : CharSet := diff (union s t) (inter s t)

/-- Whether a set has no character; code points of surrogates are none. -/
def isEmpty (s : CharSet) : Bool := s.all fun (a, b) => 0xD800 ≤ a && b ≤ 0xDFFF

def isAscii (s : CharSet) : Bool := s.all fun (_, b) => b < 0x80

/-- The value of a hexadecimal numeral in capital digits. -/
def hexValue (s : List Char) : Nat :=
  s.foldl (fun n c => n * 16 + if c.isDigit then c.toNat - 48 else c.toNat - 55) 0

/-- The ranges of a word such as `41-5A`, `AA` or `100-12E/2`. -/
def rangesOfWord (word : List Char) : List (Nat × Nat) :=
  let (ends, step) := (word.takeWhile (· ≠ '/'), (word.dropWhile (· ≠ '/')).drop 1)
  let first := hexValue (ends.takeWhile (· ≠ '-'))
  let final := match (ends.dropWhile (· ≠ '-')).drop 1 with
    | [] => first
    | digits => hexValue digits
  if step.isEmpty then [(first, final)]
  else (List.range ((final - first) / 2 + 1)).map fun i => (first + 2 * i, first + 2 * i)

/-- The set that a table writes as words with spaces and line feeds between them. -/
def ofText (text : String) : CharSet :=
  let words := (Text.fields '\n' text.toList).flatMap (Text.fields ' ')
  ofRanges ((words.filter (!·.isEmpty)).flatMap rangesOfWord)

end CharSet

end ReleaseGap.Pattern
