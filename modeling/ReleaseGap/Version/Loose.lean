import ReleaseGap.Decimal.Numeral

/-!
# Loose versions

A version is compared run by run.  The characters are digits, lower-case letters and others; dots
and underscores only separate.  A run of digits counts as its number as long as that has
64 bits at most, and numbers come before texts.  The runs are read in one pass, with the run that is
being read in a buffer.
-/

namespace ReleaseGap.Version

/-- The classes of characters that make up runs. -/
inductive Kind where
  | digit
  | lower
  | other
deriving DecidableEq, Repr

/-- Dots and underscores separate runs. -/
def separates (c : Char) : Bool := c = '.' || c = '_'

/-- The class of a character; separators have none. -/
def kind? (c : Char) : Option Kind :=
  if separates c then none
  else if '0' ≤ c ∧ c ≤ '9' then some .digit
  else if 'a' ≤ c ∧ c ≤ 'z' then some .lower
  else some .other

/-- One step of a comparison. -/
inductive Component where
  | number (n : Nat)
  | text (s : String)
deriving DecidableEq, Repr

/-- What a run of a class counts as. -/
def Component.ofRun (kind : Option Kind) (run : List Char) : Component :=
  match kind with
  | some .digit =>
    match (Decimal.digits? run).filter (· < Nat.pow 2 64) with
    | some n => .number n
    | none => .text (String.ofList run)
  | _ => .text (String.ofList run)

/-- A number comes before a text. -/
def Component.cmp : Component → Component → Ordering
  | .number a, .number b => compare a b
  | .number _, .text _ => .lt
  | .text _, .number _ => .gt
  | .text a, .text b => if a < b then .lt else if a = b then .eq else .gt

/-- Compares step by step; a version that ends comes before one that goes on. -/
def cmpComponents : List Component → List Component → Ordering
  | [], [] => .eq
  | [], _ :: _ => .lt
  | _ :: _, [] => .gt
  | a :: as, b :: bs => (a.cmp b).then (cmpComponents as bs)

/-- How far a version is read: the components so far, and the run that is being read with the class
of the character read last. -/
structure Scan where
  components : List Component := []
  current : List Char := []
  kind : Option Kind := none

namespace Scan

/-- Ends the run that is being read. -/
def flush (scan : Scan) : Scan :=
  if scan.current.isEmpty then scan
  else
    { scan with
      components := scan.components ++ [.ofRun scan.kind scan.current]
      current := [] }

/-- Ends the run that is being read if a character is of another class. -/
def before (scan : Scan) (c : Char) : Scan :=
  if kind? c = scan.kind then scan else scan.flush

/-- Reads a character.  A separator belongs to no run. -/
def step (scan : Scan) (c : Char) : Scan :=
  let ended := scan.before c
  { ended with
    current := if (kind? c).isSome then ended.current ++ [c] else ended.current
    kind := kind? c }

end Scan

/-- The components of a version. -/
def components (version : String) : List Component :=
  (version.toList.foldl Scan.step {}).flush.components

/-- Compares two versions.  Different spellings can be equal, such as `1.2` and `1_02`. -/
def compareLoosely (a b : String) : Ordering := cmpComponents (components a) (components b)

end ReleaseGap.Version
