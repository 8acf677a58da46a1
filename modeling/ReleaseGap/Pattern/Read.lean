import ReleaseGap.Pattern.Class
import ReleaseGap.Pattern.Weight

/-!
# Reading patterns

A pattern is read as a whole, with flags that hold up to the end of the group they are set in.  The
group opened first is the marked one.  Patterns that nest too deep or weigh too much are refused.
-/

namespace ReleaseGap.Pattern

/-- A part of a pattern with the depth of its nesting. -/
structure Part where
  regex : Regex
  depth : Nat
deriving Inhabited

/-- What stands in a row: parts, and settings of flags, which nothing can repeat. -/
inductive Item where
  | part (p : Part)
  | flags
deriving Inhabited

/-- What is left to read, how many groups were opened and which names they were given. -/
structure Source where
  rest : List Char
  groups : Nat := 0
  names : List (List Char) := []

/-- The part that a row of items makes, given backwards. -/
def Part.ofRow (items : List Item) : Part :=
  let parts := items.reverse.map fun i => match i with
    | .part p => p
    | .flags => ⟨.empty, 0⟩
  match parts with
  | [p] => p
  | [] => ⟨.empty, 0⟩
  | parts => ⟨Regex.cats (parts.map (·.regex)), (parts.map (·.depth)).foldl max 0 + 1⟩

/-- The part that alternatives make, given backwards. -/
def Part.ofBranches (branches : List Part) : Part :=
  match branches with
  | [p] => p
  | branches =>
    ⟨Regex.alts (branches.reverse.map (·.regex)), (branches.map (·.depth)).foldl max 0 + 1⟩

/-- The regular expression of a character. -/
def Flags.char? (f : Flags) (c : Char) (asOctet : Bool) : Option Regex :=
  if f.unicode || c.toNat < 0x80 then some (.chars (f.fold (CharSet.single c)))
  else if asOctet || f.ignoreCase then none
  else some (.chars (CharSet.single c))

def Flags.element? (f : Flags) : Element → Option Regex
  | .char c asOctet => f.char? c asOctet
  | .set s => some (.chars s)
  | .look l => some (.look l)

/-- Any character; the ends of lines only if the flags say so. -/
def Flags.dot? (f : Flags) : Option Regex :=
  if !f.unicode then none
  else if f.dotAll then some (.chars [(0, CharSet.last)])
  else if f.anyLineEnd then some (.chars (CharSet.ofText "A D").complement)
  else some (.chars (CharSet.ofText "A").complement)

def Flags.lineStart (f : Flags) : Look :=
  if !f.multiLine then .textStart else if f.anyLineEnd then .anyLineStart else .lineStart

def Flags.lineEnd (f : Flags) : Look :=
  if !f.multiLine then .textEnd else if f.anyLineEnd then .anyLineEnd else .lineEnd

/-- Sets the flag with a letter. -/
def Flags.set? (f : Flags) (letter : Char) (on : Bool) : Option Flags :=
  match letter with
  | 'i' => some { f with ignoreCase := on }
  | 'm' => some { f with multiLine := on }
  | 's' => some { f with dotAll := on }
  | 'U' => some { f with swapGreed := on }
  | 'u' => some { f with unicode := on }
  | 'R' => some { f with anyLineEnd := on }
  | 'x' => some { f with verbose := on }
  | _ => none

/-- Reads the letters of flags up to the end of the text, a colon or a closing parenthesis.  No
letter is repeated, and those behind one hyphen are taken back. -/
def flagLetters? (f : Flags) (seen : List Char) : List Char → Option (Flags × List Char × List Char)
  | [] => none
  | c :: r =>
    if c = ':' ∨ c = ')' then
      if seen.head? = some '-' then none else some (f, seen, c :: r)
    else if seen.contains c then none
    else if c = '-' then flagLetters? f (c :: seen) r
    else do flagLetters? (← f.set? c (!seen.contains '-')) (c :: seen) r

/-- Whether a character may stand in the name of a group. -/
def isNameChar (first : Bool) (c : Char) : Bool :=
  c = '_' || CharSet.contains alphabetic c
    || (!first && (c = '.' || c = '[' || c = ']'
      || CharSet.contains (ofCategories ["Nd", "Nl", "No"]) c))

/-- Reads the name of a group up to its closing bracket. -/
def groupName? (s : List Char) : Option (List Char × List Char) :=
  let name := s.takeWhile (· ≠ '>')
  match name, s.dropWhile (· ≠ '>') with
  | c :: more, _ :: rest =>
    if isNameChar true c && more.all (isNameChar false) then some (name, rest) else none
  | _, _ => none

/-- How a group begins. -/
inductive Opening where
  | marked (name : Option (List Char))
  | plain (f : Flags)
  /-- No group: flags are set for what follows. -/
  | setting (f : Flags)

/-- Reads how a group begins, behind its parenthesis. -/
def opening? (f : Flags) (s : List Char) : Option (Opening × List Char) :=
  match f.skip s with
  | '?' :: '=' :: _ => none
  | '?' :: '!' :: _ => none
  | '?' :: '<' :: '=' :: _ => none
  | '?' :: '<' :: '!' :: _ => none
  | '?' :: 'P' :: '<' :: r => (groupName? r).map fun (name, r) => (.marked (some name), r)
  | '?' :: '<' :: r => (groupName? r).map fun (name, r) => (.marked (some name), r)
  | '?' :: r => do
    let (f, seen, r) ← flagLetters? f [] r
    match r with
    | ':' :: r => return (.plain f, r)
    | _ :: r => if seen.isEmpty then none else return (.setting f, r)
    | [] => none
  | s => some (.marked none, s)

/-- Reads a decimal number, with white space around it. -/
def count? (f : Flags) (s : List Char) : Option (Nat × List Char) :=
  let digits (s : List Char) := digitsOf [] s.length (s.dropWhile Text.isBlank)
  let (found, r) := digits s
  ((Decimal.digits? found).filter (· < Nat.pow 2 32)).map fun n => (n, r.dropWhile Text.isBlank)
where
  /-- Reads digits; `fuel` bounds their number. -/
  digitsOf (found : List Char) : Nat → List Char → List Char × List Char
    | 0, s => (found.reverse, s)
    | fuel + 1, s =>
      match s with
      | c :: r =>
        if Decimal.isDigit c then digitsOf (c :: found) fuel (f.skip r) else (found.reverse, s)
      | [] => (found.reverse, [])

/-- Reads the counts of a repetition behind the opening brace. -/
def counts? (f : Flags) (s : List Char) : Option (Nat × Option Nat × List Char) := do
  let (least, r) ← count? f (f.skip s)
  match f.skip r with
  | '\x7d' :: r => return (least, some least, r)
  | ',' :: r =>
    match f.skip r with
    | '\x7d' :: r => return (least, none, r)
    | r =>
      let (most, r) ← count? f r
      match f.skip r with
      | '\x7d' :: r => if least ≤ most then return (least, some most, r) else none
      | _ => none
  | _ => none

/-- Repeats the last item of a row. -/
def repeatLast? (f : Flags) (greedy : Bool) (least : Nat) (most : Option Nat) :
    List Item → Option (List Item)
  | .part p :: items =>
    some (.part ⟨Regex.times (greedy != f.swapGreed) least most p.regex, p.depth + 1⟩ :: items)
  | _ => none

/-- Cuts the question mark off that makes a repetition prefer less. -/
def cutLazy : List Char → Bool × List Char
  | '?' :: r => (false, r)
  | r => (true, r)

mutual

/-- Reads up to a closing parenthesis or the end: `branches` and `items` were read before, and are
given backwards. -/
def readBranches? : Nat → Flags → List Part → List Item → Source → Option (Part × Source)
  | 0, _, _, _, _ => none
  | fuel + 1, f, branches, items, source =>
    let more (items : List Item) (rest : List Char) :=
      readBranches? fuel f branches items { source with rest }
    let element (e : Element) (rest : List Char) :=
      (f.element? e).bind fun r => more (.part ⟨r, 0⟩ :: items) rest
    let again (least : Nat) (most : Option Nat) (rest : List Char) :=
      let (greedy, rest) := cutLazy rest
      (repeatLast? f greedy least most items).bind fun items => more items rest
    match f.skip source.rest with
    | [] => some (Part.ofBranches (Part.ofRow items :: branches), { source with rest := [] })
    | ')' :: r =>
      some (Part.ofBranches (Part.ofRow items :: branches), { source with rest := ')' :: r })
    | '|' :: rest => readBranches? fuel f (Part.ofRow items :: branches) [] { source with rest }
    | '(' :: r => do
      match ← opening? f r with
      | (.setting f, rest) => readBranches? fuel f branches (.flags :: items) { source with rest }
      | (.plain inner, rest) =>
        let (p, source) ← readGroup? fuel inner { source with rest }
        readBranches? fuel f branches (.part ⟨p.regex, p.depth + 1⟩ :: items) source
      | (.marked name, rest) =>
        guard (name.all (!source.names.contains ·))
        let names := name.toList ++ source.names
        let (p, inside) ← readGroup? fuel f { rest, groups := source.groups + 1, names }
        let regex := if source.groups = 0 then .marked p.regex else p.regex
        readBranches? fuel f branches (.part ⟨regex, p.depth + 1⟩ :: items) inside
    | '[' :: r => do
      let (nested, rest) ← bracket? (2 * r.length + 2) f r
      more (.part ⟨.chars nested.set, nested.depth⟩ :: items) rest
    | '?' :: r => again 0 (some 1) r
    | '*' :: r => again 0 none r
    | '+' :: r => again 1 none r
    | '\x7b' :: r => do
      let (least, most, rest) ← counts? f r
      again least most (f.skip rest)
    | '\\' :: r => do
      let (e, rest) ← escape? f r
      element e rest
    | '.' :: r => f.dot?.bind fun r' => more (.part ⟨r', 0⟩ :: items) r
    | '^' :: r => more (.part ⟨.look f.lineStart, 0⟩ :: items) r
    | '$' :: r => more (.part ⟨.look f.lineEnd, 0⟩ :: items) r
    | c :: r => element (.char c false) r

/-- Reads a group with its closing parenthesis. -/
def readGroup? : Nat → Flags → Source → Option (Part × Source)
  | 0, _, _ => none
  | fuel + 1, f, source => do
    let (p, source) ← readBranches? fuel f [] [] source
    match source.rest with
    | ')' :: rest => return (p, { source with rest })
    | _ => none

end

/-- The deepest nesting that is read. -/
def depthLimit : Nat := 250

/-- Reads a pattern. -/
def Regex.read? (pattern : List Char) : Option Regex := do
  let (p, source) ← readBranches? (2 * pattern.length + 2) {} [] [] { rest := pattern }
  guard (source.rest = [] ∧ p.depth ≤ depthLimit ∧ p.regex.weight ≤ weightLimit)
  return p.regex

/-- A pattern that matches exactly a text. -/
def quoted (s : List Char) : List Char :=
  s.flatMap fun c => if isMeta c then ['\\', c] else [c]

end ReleaseGap.Pattern
