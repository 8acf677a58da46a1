import ReleaseGap.Pattern.Basic

/-!
# Programs of patterns

A pattern as a graph of steps.  Repetitions by counts are written out, and a loop over a pattern
that can match the empty text is entered at most once for it.
-/

namespace ReleaseGap.Pattern

/-- A step, with the numbers of the steps that follow. -/
inductive Step where
  | chars (set : CharSet) (next : Nat)
  | look (l : Look) (next : Nat)
  /-- Two ways on, the first preferred. -/
  | split (first second : Nat)
  | markStart (next : Nat)
  | markEnd (next : Nat)
  | accept
  | fail
deriving Repr, Inhabited

abbrev Program := Array Step

namespace Program

/-- A split whose preferred way is the first if `greedy`. -/
def choice (greedy : Bool) (more done : Nat) : Step :=
  if greedy then .split more done else .split done more

/-- Adds a step, and answers its number. -/
def add (s : Step) (p : Program) : Nat × Program := (p.size, p.push s)

/-- Adds a loop that is run at least once: `body` is given the number of the split behind it. -/
def addLoop (greedy : Bool) (body : Nat → Program → Nat × Program) (next : Nat) (p : Program) :
    Nat × Nat × Program :=
  let (behind, p) := add .fail p
  let (start, p) := body behind p
  (start, behind, p.set! behind (choice greedy start next))

/-- Adds a number of copies, one after the other. -/
def addCopies (body : Nat → Program → Nat × Program) : Nat → Nat → Program → Nat × Program
  | 0, next, p => (next, p)
  | n + 1, next, p =>
    let (start, p) := body next p
    addCopies body n start p

/-- Adds a number of copies, each of which may be the last. -/
def addOptional (greedy : Bool) (body : Nat → Program → Nat × Program) (done : Nat) :
    Nat → Nat → Program → Nat × Program
  | 0, next, p => (next, p)
  | n + 1, next, p =>
    let (start, p) := body next p
    let (here, p) := add (choice greedy start done) p
    addOptional greedy body done n here p

/-- Adds the steps of a pattern in front of a step, and answers the number of the first. -/
def addRegex : Regex → Nat → Program → Nat × Program
  | .empty, next, p => (next, p)
  | .chars set, next, p => add (.chars set next) p
  | .look l, next, p => add (.look l next) p
  | .marked r, next, p =>
    let (stop, p) := add (.markEnd next) p
    let (start, p) := addRegex r stop p
    add (.markStart start) p
  | .cat a b, next, p =>
    let (middle, p) := addRegex b next p
    addRegex a middle p
  | .alt a b, next, p =>
    let (first, p) := addRegex a next p
    let (second, p) := addRegex b next p
    add (.split first second) p
  | .repeated greedy least most r, next, p =>
    let body := fun next p => addRegex r next p
    match most with
    | some most =>
      let (start, p) := addOptional greedy body next (most - least) next p
      addCopies body least start p
    | none =>
      let (start, behind, p) := addLoop greedy body next p
      match least with
      | 0 =>
        if r.canBeEmpty then add (choice greedy start next) p else (behind, p)
      | n + 1 => addCopies body n start p

/-- The program of a pattern, and the number of its first step. -/
def ofRegex (r : Regex) : Nat × Program := addRegex r 0 #[.accept]

end Program

end ReleaseGap.Pattern
