/-!
# Caseless letters

Matching of ASCII letters without regard to case.  Two letters outside of ASCII are variants of
ASCII ones: the long s and the Kelvin sign.
-/

namespace ReleaseGap.Text

/-- The lower-case ASCII letter that a character is a variant of, or the character itself. -/
def foldLetter (c : Char) : Char :=
  if c = 'ſ' then 's' else if c = '\u212A' then 'k' else c.toLower

/-- Drops a lower-case word from the front in whatever case it is written. -/
def dropWord? : List Char → List Char → Option (List Char)
  | [], s => some s
  | _ :: _, [] => none
  | w :: word, c :: r => if foldLetter c = w then dropWord? word r else none

end ReleaseGap.Text
