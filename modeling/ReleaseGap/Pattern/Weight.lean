import ReleaseGap.Pattern.Basic

/-!
# Weights of patterns

A pattern that takes too much room as a program is refused.  There are two programs for it: one
reads the octets of a text forwards and one backwards.  They take the same room but for a set that
has characters beyond ASCII.  For such a set the program that reads backwards is the bigger one,
since it keeps the octets of all characters apart but for those that they begin with, and the weight
is its room.
-/

namespace ReleaseGap.Pattern

/-- Characters by the ranges that their octets are of, one after the other. -/
abbrev OctetRow := List (Nat × Nat)

namespace OctetRow

/-- Rows behind one more octet. -/
def behind (octet : Nat) (rows : List OctetRow) : List OctetRow :=
  rows.map fun row => (octet, octet) :: row

/-- The row of the characters with upper bits from `first` up to those before `final`, whatever
their lower bits. -/
def whole (mark others first final : Nat) : List OctetRow :=
  if first < final then
    [(mark + first, mark + (final - 1)) :: List.replicate others (0x80, 0xBF)]
  else []

/-- The rows of the characters whose bits go from `a` to `b`.  The first octet has a mark and the
upper bits, and each of the others has six bits more. -/
def between (mark : Nat) : Nat → Nat → Nat → List OctetRow
  | 0, a, b => [[(mark + a, mark + b)]]
  | others + 1, a, b =>
    let block := Nat.pow 64 (others + 1)
    let (first, final) := (a / block, b / block)
    if first = final then behind (mark + first) (between 0x80 others (a % block) (b % block))
    else
      (if a % block = 0 then []
        else behind (mark + first) (between 0x80 others (a % block) (block - 1))) ++
      whole mark (others + 1) ((a + block - 1) / block) ((b + 1) / block) ++
      if (b + 1) % block = 0 then []
      else behind (mark + final) (between 0x80 others 0 (b % block))

/-- The ranges of characters with the same number of octets: first and last character, the mark of
the first octet and the number of the others. -/
def lengths : List (Nat × Nat × Nat × Nat) :=
  [(0, 0x7F, 0, 0), (0x80, 0x7FF, 0xC0, 1), (0x800, 0xD7FF, 0xE0, 2), (0xE000, 0xFFFF, 0xE0, 2),
    (0x10000, CharSet.last, 0xF0, 3)]

/-- The rows of a range. -/
def ofRange (a b : Nat) : List OctetRow :=
  lengths.flatMap fun (first, final, mark, others) =>
    if max a first ≤ min b final then between mark others (max a first) (min b final) else []

/-- The rows of a set. -/
def ofSet (s : CharSet) : List OctetRow := s.flatMap fun (a, b) => ofRange a b

/-- How many octets a row does not share with the one before it. -/
def ownOctets (before row : OctetRow) : Nat :=
  row.length - ((List.zip before row).takeWhile fun (a, b) => a = b).length

/-- How many octets rows have that begin alike only once. -/
def steps (before : OctetRow) : List OctetRow → Nat
  | [] => 0
  | row :: rows => ownOctets before row + steps row rows

end OctetRow

namespace Regex

/-- About how many octets the program of a class of characters takes. -/
def classWeight (s : CharSet) : Nat :=
  if s.isAscii then 64 + 8 * s.length
  else
    let rows := OctetRow.ofSet s
    64 + 32 * OctetRow.steps [] rows + 4 * rows.length

/-- How many octets a code point has in UTF-8. -/
def octetCount (n : Nat) : Nat :=
  if n < 0x80 then 1 else if n < 0x800 then 2 else if n < 0x10000 then 3 else 4

/-- About how many octets the program of a set takes.  A character alone is no class. -/
def setWeight (s : CharSet) : Nat :=
  match s with
  | [(a, b)] => if a = b then 32 * octetCount a else classWeight s
  | s => classWeight s

/-- About how many octets the program of a pattern takes. -/
def weight : Regex → Nat
  | empty => 0
  | chars s => setWeight s
  | look _ => 32
  | marked r => 64 + r.weight
  | cat a b => a.weight + b.weight
  | alt a b => 48 + a.weight + b.weight
  | repeated _ least most r =>
    match most with
    | some most => 32 + least * r.weight + (most - least) * (48 + r.weight)
    | none => 80 + max least 1 * r.weight

/-- The limit of the weight: ten mebibytes. -/
def weightLimit : Nat := 10 * Nat.pow 2 20

end Regex

end ReleaseGap.Pattern
