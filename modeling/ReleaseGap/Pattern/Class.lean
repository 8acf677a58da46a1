import ReleaseGap.Pattern.Escape

/-!
# Sets in brackets

Sets written in brackets: characters, ranges, escapes, nested sets and sets named as `[:alpha:]`,
joined by intersection, difference and symmetric difference.
-/

namespace ReleaseGap.Pattern

/-- How two sets are joined. -/
inductive SetOp where
  | inter
  | diff
  | symmDiff
deriving DecidableEq, Repr

def SetOp.apply (op : SetOp) (f : Flags) (s t : CharSet) : CharSet :=
  let s := f.fold s
  let t := f.fold t
  match op with
  | .inter => s.inter t
  | .diff => s.diff t
  | .symmDiff => s.symmDiff t

/-- A set with the depth of its nesting. -/
structure Nested where
  set : CharSet
  depth : Nat
deriving Inhabited

/-- The union of items. -/
def Nested.union (items : List Nested) : Nested :=
  let depth := (items.map (·.depth)).foldl max 0
  ⟨CharSet.ofRanges (items.flatMap (·.set)), if items.length ≤ 1 then depth else depth + 1⟩

/-- Joins a set to what stands left of it. -/
def Nested.joined (left : Option (SetOp × Nested)) (f : Flags) (right : Nested) : Nested :=
  match left with
  | none => right
  | some (op, left) => ⟨op.apply f left.set right.set, max left.depth right.depth + 1⟩

/-- The sets with a name between colons. -/
def asciiSet? (name : String) : Option CharSet :=
  match name with
  | "alnum" => some (CharSet.ofText "30-39 41-5A 61-7A")
  | "alpha" => some (CharSet.ofText "41-5A 61-7A")
  | "ascii" => some [(0, 0x7F)]
  | "blank" => some (CharSet.ofText "9 20")
  | "cntrl" => some (CharSet.ofText "0-1F 7F")
  | "digit" => some (CharSet.ofText "30-39")
  | "graph" => some (CharSet.ofText "21-7E")
  | "lower" => some (CharSet.ofText "61-7A")
  | "print" => some (CharSet.ofText "20-7E")
  | "punct" => some (CharSet.ofText "21-2F 3A-40 5B-60 7B-7E")
  | "space" => some (CharSet.ofText "9-D 20")
  | "upper" => some (CharSet.ofText "41-5A")
  | "word" => some (CharSet.ofText "30-39 41-5A 5F 61-7A")
  | "xdigit" => some (CharSet.ofText "30-39 41-46 61-66")
  | _ => none

/-- A set with a name between colons, behind its bracket: the set if it may be one, and the rest. -/
def colonSet? (f : Flags) : List Char → Option (Option CharSet × List Char)
  | ':' :: r =>
    let (negated, r) := match r with
      | '^' :: r => (true, r)
      | r => (false, r)
    let name := String.ofList (r.takeWhile (· ≠ ':'))
    match r.dropWhile (· ≠ ':') with
    | ':' :: ']' :: rest =>
      (asciiSet? name).map fun s => (f.negate? negated (f.fold s), rest)
    | _ => none
  | _ => none

/-- A character of a set.  A set of octets holds ASCII characters only. -/
def Element.member? (f : Flags) : Element → Option Char
  | .char c _ => if f.unicode || c.toNat < 0x80 then some c else none
  | _ => none

/-- Reads one character or escape of a set. -/
def setElement? (f : Flags) : List Char → Option (Element × List Char)
  | [] => none
  | '\\' :: r => escape? f r
  | c :: r => some (.char c false, r)

/-- Reads an item of a set: a character, a range or an escape. -/
def setItem? (f : Flags) (s : List Char) : Option (CharSet × List Char) := do
  let (first, r) ← setElement? f s
  let alone := match first with
    | .set set => some set
    | first => (first.member? f).map CharSet.single
  match f.skip r with
  | '-' :: r' =>
    match f.skip r' with
    | ']' :: _ | '-' :: _ => return (← alone, '-' :: r')
    | [] => none
    | s =>
      let (final, r) ← setElement? f s
      let a ← first.member? f
      let b ← final.member? f
      guard (a.toNat ≤ b.toNat)
      return ([(a.toNat, b.toNat)], r)
  | r => return (← alone, r)

/-- Reads the hyphens in front of a set, each of which stands for itself. -/
def leadingHyphens (f : Flags) : Nat → List Char → Nat × List Char
  | 0, s => (0, s)
  | fuel + 1, s =>
    match s with
    | '-' :: r => let (n, r) := leadingHyphens f fuel (f.skip r); (n + 1, r)
    | s => (0, s)

mutual

/-- Reads a set behind its opening bracket. -/
def bracket? : Nat → Flags → List Char → Option (Nested × List Char)
  | 0, _, _ => none
  | fuel + 1, f, s => do
    let s := f.skip s
    let (negated, s) := match s with
      | '^' :: r => (true, f.skip r)
      | s => (false, s)
    let (hyphens, s) := leadingHyphens f s.length s
    let items : List Nested := List.replicate hyphens ⟨CharSet.single '-', 0⟩
    let (items, s) : List Nested × List Char := match items, s with
      | [], ']' :: r => ([⟨CharSet.single ']', 0⟩], f.skip r)
      | items, s => (items, s)
    guard (!s.isEmpty)
    let (inner, rest) ← bracketBody? fuel f none items s
    let set ← f.negate? negated (f.fold inner.set)
    return (⟨set, inner.depth + 1⟩, rest)

/-- Reads the items of a set up to its closing bracket. -/
def bracketBody? : Nat → Flags → Option (SetOp × Nested) → List Nested → List Char →
    Option (Nested × List Char)
  | 0, _, _, _, _ => none
  | fuel + 1, f, left, items, s =>
    let next (op : SetOp) (r : List Char) :=
      bracketBody? fuel f (some (op, Nested.joined left f (Nested.union items))) [] r
    match f.skip s with
    | [] => none
    | '[' :: r =>
      match colonSet? f r with
      | some (set, rest) => do
        bracketBody? fuel f left (⟨← set, 0⟩ :: items) rest
      | none => do
        let (nested, rest) ← bracket? fuel f r
        bracketBody? fuel f left (nested :: items) rest
    | ']' :: r => some (Nested.joined left f (Nested.union items), r)
    | '&' :: '&' :: r => next .inter r
    | '-' :: '-' :: r => next .diff r
    | '~' :: '~' :: r => next .symmDiff r
    | s => do
      let (set, rest) ← setItem? f s
      bracketBody? fuel f left (⟨set, 0⟩ :: items) rest

end

end ReleaseGap.Pattern
