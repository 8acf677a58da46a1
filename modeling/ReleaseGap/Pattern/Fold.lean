import ReleaseGap.Pattern.CharSet
import ReleaseGap.Pattern.FoldTable

/-!
# Case folding

Characters that differ in case only have one image under folding.  Folding a set adds to each member
all characters with the same image.
-/

namespace ReleaseGap.Pattern

/-- A character and its image, for every character that is not its own image. -/
def foldPairs : List (Nat × Nat) :=
  foldRuns.flatMap fun (first, last, step, image) =>
    (List.range ((last - first) / step + 1)).map fun i => (first + i * step, image + i * step)

namespace CharSet

def has (s : CharSet) (n : Nat) : Bool := s.any fun (first, last) => first ≤ n && n ≤ last

/-- The images of members that are not their own image, and the members that are an image. -/
def foldImages (s : CharSet) : List Nat :=
  (foldPairs.filter fun (n, image) => s.has n || s.has image).map Prod.snd

/-- Adds the other cases of all members. -/
def fold (s : CharSet) : CharSet :=
  let images := foldImages s
  if images.isEmpty then s
  else
    let others := foldPairs.filter fun (_, image) => images.contains image
    ofRanges (s ++ images.map (fun n => (n, n)) ++ others.map fun (n, _) => (n, n))

/-- The letters of a set in a range, moved by a distance. -/
def shifted (s : CharSet) (first last : Nat) (move : Nat → Nat) : CharSet :=
  (inter s [(first, last)]).map fun (a, b) => (move a, move b)

/-- Adds the other cases of ASCII letters only. -/
def foldAscii (s : CharSet) : CharSet :=
  ofRanges (s ++ shifted s 0x41 0x5A (· + 32) ++ shifted s 0x61 0x7A (· - 32))

end CharSet

end ReleaseGap.Pattern
