import ReleaseGap.Text.CaseTable

/-!
# Lower case

Lower case by the full Unicode mapping.  Two characters do not map one to one: a capital I with a
dot becomes two characters, and a capital sigma becomes the final sigma at the end of a word.
-/

namespace ReleaseGap.Text

/-- Whether `n` lies in one of the ordered ranges, by bisection. -/
def inRanges (ranges : Array (Nat × Nat)) (n : Nat) : Bool :=
  search ranges.size 0 ranges.size
where
  /-- Looks between the places `lo` and `hi`; `fuel` bounds the halvings. -/
  search : Nat → Nat → Nat → Bool
    | 0, _, _ => false
    | fuel + 1, lo, hi =>
      if lo < hi then
        let mid := (lo + hi) / 2
        let (a, b) := ranges.getD mid (0, 0)
        if n < a then search fuel lo mid
        else if b < n then search fuel (mid + 1) hi
        else true
      else false

def isCased (c : Char) : Bool := inRanges casedRanges c.toNat

def isCaseIgnorable (c : Char) : Bool := inRanges caseIgnorableRanges c.toNat

/-- The simple lower-case image of a character. -/
def lowerChar (c : Char) : Char :=
  let n := c.toNat
  if n < 0x80 then c.toLower
  else match lowerRuns.find? fun (a, b, step, _) => a ≤ n && n ≤ b && (n - a) % step == 0 with
    | some (a, _, _, image) => Char.ofNat (image + (n - a))
    | none => c

/-- Whether the first character that is not case-ignorable is cased. -/
def meetsCased (s : List Char) : Bool :=
  match s.dropWhile isCaseIgnorable with
  | c :: _ => isCased c
  | [] => false

/-- Lower case of the text that follows `before`, which is given backwards. -/
def lowerAfter (before : List Char) : List Char → List Char
  | [] => []
  | c :: r =>
    let image :=
      if c = 'Σ' then [if meetsCased before && !meetsCased r then 'ς' else 'σ']
      else if c = 'İ' then ['i', '\u0307']
      else [lowerChar c]
    image ++ lowerAfter (c :: before) r

/-- Lower case of a text. -/
def lower (s : List Char) : List Char := lowerAfter [] s

/-- A character that ends every word: no sigma is a middle one because of what follows it. -/
def EndsWords (c : Char) : Prop := isCaseIgnorable c = false ∧ isCased c = false

theorem meetsCased_append_cons {c : Char} (hc : EndsWords c) (s t : List Char) :
    meetsCased (s ++ c :: t) = meetsCased s := by
  induction s with
  | nil => simp [meetsCased, hc.1, hc.2]
  | cons d s ih =>
    by_cases hd : isCaseIgnorable d = true
    · simpa only [meetsCased, List.cons_append, List.dropWhile_cons_of_pos hd] using ih
    · simp only [meetsCased, List.cons_append, List.dropWhile_cons_of_neg hd]

/-- Up to the end of a word, lower case does not depend on what follows. -/
theorem lowerAfter_append_cons {c : Char} (hc : EndsWords c) (before s t : List Char) :
    lowerAfter before (s ++ c :: t)
      = lowerAfter before s ++ lowerAfter (s.reverse ++ before) (c :: t) := by
  induction s generalizing before with
  | nil => rfl
  | cons d s ih =>
    simp only [List.cons_append, lowerAfter, meetsCased_append_cons hc, ih, List.reverse_cons,
      List.append_assoc, List.nil_append]

end ReleaseGap.Text
