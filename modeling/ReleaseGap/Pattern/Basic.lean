import ReleaseGap.Pattern.CharSet

/-!
# Patterns

Regular expressions with looks at the place they are tried at, one marked group, and repetition by
counts. What a pattern prefers comes first: the left alternative, and more or fewer repetitions as
it says.
-/

namespace ReleaseGap.Pattern

/-- What can be asked of a place between words and other characters. -/
inductive WordEdge where
  | boundary
  | noBoundary
  | start
  | finish
  | startHalf
  | finishHalf
deriving DecidableEq, Repr

/-- A question about a place in the text. -/
inductive Look where
  | textStart
  | textEnd
  | lineStart
  | lineEnd
  /-- As `lineStart`, where a carriage return ends a line as well. -/
  | anyLineStart
  | anyLineEnd
  | word (edge : WordEdge) (ascii : Bool)
deriving DecidableEq, Repr

inductive Regex where
  | empty
  | chars (set : CharSet)
  | look (l : Look)
  /-- The group whose text is asked for. -/
  | marked (r : Regex)
  | cat (a b : Regex)
  | alt (a b : Regex)
  | repeated (greedy : Bool) (least : Nat) (most : Option Nat) (r : Regex)
deriving Repr, Inhabited

namespace Regex

/-- Whether the empty text can match. -/
def canBeEmpty : Regex → Bool
  | empty => true
  | chars _ => false
  | look _ => true
  | marked r => r.canBeEmpty
  | cat a b => a.canBeEmpty && b.canBeEmpty
  | alt a b => a.canBeEmpty || b.canBeEmpty
  | repeated _ least _ r => least == 0 || r.canBeEmpty

/-- Whether nothing but the empty text can match. -/
def isOnlyEmpty : Regex → Bool
  | empty => true
  | chars _ => false
  | look _ => true
  | marked r => r.isOnlyEmpty
  | cat a b => a.isOnlyEmpty && b.isOnlyEmpty
  | alt a b => a.isOnlyEmpty && b.isOnlyEmpty
  | repeated _ _ most r => most == some 0 || r.isOnlyEmpty

/-- Repetition.  More than one repetition of the empty text is as good as one. -/
def times (greedy : Bool) (least : Nat) (most : Option Nat) (r : Regex) : Regex :=
  let (least, most) :=
    if r.isOnlyEmpty then (min least 1, some (min (most.getD 1) 1)) else (least, most)
  if least = 0 ∧ most = some 0 then empty
  else if least = 1 ∧ most = some 1 then r
  else repeated greedy least most r

/-- One after the other. -/
def cats (rs : List Regex) : Regex :=
  match rs with
  | [] => empty
  | [r] => r
  | r :: rest => cat r (cats rest)

/-- One of several, the earlier ones preferred. -/
def alts (rs : List Regex) : Regex :=
  match rs with
  | [] => empty
  | [r] => r
  | r :: rest => alt r (alts rest)

end Regex

end ReleaseGap.Pattern
