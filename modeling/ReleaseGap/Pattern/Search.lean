import ReleaseGap.Pattern.Program
import ReleaseGap.Pattern.Property

/-!
# Searching

All ways through a program are followed at once, in the order in which the pattern prefers them, so
that each step is visited at most once at each place of the text.
-/

namespace ReleaseGap.Pattern

/-- A place in a text. -/
structure Place where
  before : Option Char
  after : List Char
  offset : Nat

def isWordIn (ascii : Bool) (c : Option Char) : Bool :=
  c.any fun c =>
    if ascii then c.isAlphanum || c = '_' else CharSet.contains wordCharacters c

/-- Whether a question has the answer yes at a place. -/
def Look.holds (l : Look) (p : Place) : Bool :=
  let next := p.after.head?
  match l with
  | .textStart => p.before.isNone
  | .textEnd => next.isNone
  | .lineStart => p.before.isNone || p.before == some '\n'
  | .lineEnd => next.isNone || next == some '\n'
  | .anyLineStart =>
    p.before.isNone || p.before == some '\n' || (p.before == some '\r' && next != some '\n')
  | .anyLineEnd =>
    next.isNone || next == some '\r' || (next == some '\n' && p.before != some '\r')
  | .word edge ascii =>
    let left := isWordIn ascii p.before
    let right := isWordIn ascii next
    match edge with
    | .boundary => left != right
    | .noBoundary => left == right
    | .start => !left && right
    | .finish => left && !right
    | .startHalf => !left
    | .finishHalf => !right

/-- A way through the program: the step it stands at and the ends of the marked group. -/
structure Thread where
  step : Nat
  markStart : Option Nat
  markEnd : Option Nat
deriving Repr, Inhabited

/-- Ways in the order of preference, and the steps that some way stands at or has passed. -/
structure Threads where
  visited : Array Bool
  list : Array Thread

def Threads.none (program : Program) : Threads := ⟨Array.replicate program.size false, #[]⟩

/-- Adds the ways on from a step up to the next characters.  `fuel` bounds the steps passed on the
way. -/
def Threads.follow (program : Program) (place : Place) : Nat → Thread → Threads → Threads
  | 0, _, ts => ts
  | fuel + 1, t, ts =>
    if ts.visited.getD t.step true then ts
    else
      let ts := { ts with visited := ts.visited.set! t.step true }
      match program.getD t.step .fail with
      | .chars _ _ => { ts with list := ts.list.push t }
      | .accept => { ts with list := ts.list.push t }
      | .fail => ts
      | .look l next =>
        if l.holds place then follow program place fuel { t with step := next } ts else ts
      | .split first second =>
        let ts := follow program place fuel { t with step := first } ts
        follow program place fuel { t with step := second } ts
      | .markStart next =>
        follow program place fuel { t with step := next, markStart := some place.offset } ts
      | .markEnd next =>
        follow program place fuel { t with step := next, markEnd := some place.offset } ts

/-- Moves ways past a character, up to the first one that is accepted.  Those behind it are dropped.
-/
def Threads.advance (program : Program) (c : Char) (place : Place) :
    List Thread → Threads → Option Thread × Threads
  | [], ts => (.none, ts)
  | t :: rest, ts =>
    match program.getD t.step .fail with
    | .accept => (some t, ts)
    | .chars set next =>
      if set.contains c then
        advance program c place rest (ts.follow program place program.size { t with step := next })
      else advance program c place rest ts
    | _ => advance program c place rest ts

/-- The way that is accepted last of those each preferred to the others at its place. -/
def runThreads (program : Program) (best : Option Thread) (threads : List Thread) (offset : Nat) :
    List Char → Option Thread
  | [] => (threads.find? fun t => program.getD t.step .fail matches .accept).or best
  | c :: rest =>
    let place : Place := ⟨some c, rest, offset + 1⟩
    let (accepted, ts) := Threads.advance program c place threads (Threads.none program)
    runThreads program (accepted.or best) ts.list.toList (offset + 1) rest

/-- The match that starts at a place. -/
def matchAt? (start : Nat) (program : Program) (place : Place) : Option Thread :=
  let ts := (Threads.none program).follow program place program.size ⟨start, none, none⟩
  runThreads program none ts.list.toList place.offset place.after

/-- The match that starts first. -/
def searchFrom? (start : Nat) (program : Program) (before : Option Char) (offset : Nat) :
    List Char → Option Thread
  | [] => matchAt? start program ⟨before, [], offset⟩
  | c :: rest =>
    (matchAt? start program ⟨before, c :: rest, offset⟩).or
      (searchFrom? start program (some c) (offset + 1) rest)

/-- The text of the marked group in the first match, if there is a match and the group took part in
it. -/
def Regex.markedText? (r : Regex) (text : List Char) : Option (List Char) := do
  let (start, program) := Program.ofRegex r
  let found ← searchFrom? start program none 0 text
  let first ← found.markStart
  let last ← found.markEnd
  return (text.take last).drop first

end ReleaseGap.Pattern
