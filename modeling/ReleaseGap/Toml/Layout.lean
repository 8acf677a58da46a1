/-!
# Layout of TOML

What may stand between the parts of a document: white space, line ends and comments.  A carriage
return stands before a line feed only, and comments hold no control characters but tabs.
-/

namespace ReleaseGap.Toml

def isSpace (c : Char) : Bool := c = ' ' || c = '\t'

/-- The control characters that a document does not hold, line ends apart. -/
def isControl (c : Char) : Bool := (c.toNat < 0x20 && c ≠ '\t') || c.toNat = 0x7F

def skipSpace (s : List Char) : List Char := s.dropWhile isSpace

/-- Reads the end of a line. -/
def newline? : List Char → Option (List Char)
  | '\n' :: r => some r
  | '\r' :: '\n' :: r => some r
  | _ => none

/-- Reads a comment, if there is one, up to the end of its line. -/
def comment? : List Char → Option (List Char)
  | '#' :: r =>
    let body := r.takeWhile fun c => c ≠ '\n' && c ≠ '\r'
    if body.any isControl then none else some (r.dropWhile fun c => c ≠ '\n' && c ≠ '\r')
  | s => some s

/-- Reads white space and a comment up to the end of a line or of the document. -/
def lineEnd? (s : List Char) : Option (List Char) := do
  match ← comment? (skipSpace s) with
  | [] => some []
  | s => newline? s

/-- Skips white space, line ends and comments; `fuel` bounds the number of lines. -/
def skipLines? : Nat → List Char → Option (List Char)
  | 0, s => some s
  | fuel + 1, s =>
    match skipSpace s with
    | '#' :: r => do
      match ← comment? ('#' :: r) with
      | [] => some []
      | s => skipLines? fuel (← newline? s)
    | '\n' :: r => skipLines? fuel r
    | '\r' :: '\n' :: r => skipLines? fuel r
    | s => some s

/-- Skips white space, line ends and comments. -/
def skipLayout? (s : List Char) : Option (List Char) := skipLines? (s.length + 1) s

end ReleaseGap.Toml
