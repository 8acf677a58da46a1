import ReleaseGap.Text.Caseless
import ReleaseGap.Text.Cut
import ReleaseGap.Text.Digit

/-!
# Commit messages

What a message says about its change: whether release tooling made it, whether it only brings in a
localization, and which issues it fixes.  Letter case does not count, except in the marks of release
tooling.
-/

namespace ReleaseGap.Message

/-- Whether release tooling made the commit, so that it carries no change. -/
def isReleaseNoise (message : String) : Bool :=
  Text.contains message "prepare for next development"
    || Text.startsWith message "bumping up POM version"

/-- Drops the first of some words that a text starts with. -/
def dropOneOf? (words : List String) (s : List Char) : Option (List Char) :=
  words.findSome? fun word => Text.dropWord? word.toList s

/-- Whether a text starts with the announcement of a localization that the community contributed. -/
def announcesLocalization (s : List Char) : Bool :=
  Option.isSome do
    let s ← dropOneOf? ["community contributed ", "community-contributed "] s
    dropOneOf? ["localization", "translation"] s

/-- Whether the commit only brings in a localization. -/
def isLocalization (message : String) : Bool :=
  let s := message.toList
  announcesLocalization s || (Text.dropWord? "integrated ".toList s).any announcesLocalization

def isLetter (c : Char) : Bool := let d := Text.foldLetter c; 'a' ≤ d && d ≤ 'z'

/-- The letters that may follow `fix`, as in `fixed` and `fixes`. -/
def isFixEnding (c : Char) : Bool :=
  let d := Text.foldLetter c
  d = 'e' || d = 'd' || d = 's'

/-- Reads the reference to a fixed issue that a text starts with, such as `FIXED ABC-12`: its
number, and what follows. -/
def fixedIssue? (s : List Char) : Option (List Char × List Char) := do
  let s ← Text.dropWord? "fix".toList s
  let s ← Text.dropLead? [' '] (s.dropWhile isFixEnding)
  guard (s.head?.any isLetter)
  let s ← Text.dropLead? ['-'] (s.dropWhile isLetter)
  guard (s.head?.any Text.isDecimalDigit)
  return (s.takeWhile Text.isDecimalDigit, s.dropWhile Text.isDecimalDigit)

theorem length_le_of_dropWord? {word s r : List Char} (h : Text.dropWord? word s = some r) :
    r.length ≤ s.length := by
  induction word generalizing s with
  | nil => cases h; exact Nat.le_refl _
  | cons w word ih =>
    cases s with
    | nil => cases h
    | cons c s =>
      simp only [Text.dropWord?] at h
      split at h
      · exact Nat.le_succ_of_le (ih h)
      · cases h

theorem length_le_of_dropLead? {lead s r : List Char} (h : Text.dropLead? lead s = some r) :
    r.length ≤ s.length := by
  rw [Text.dropLead?] at h
  split at h
  · cases h
    simp
  · cases h

theorem length_dropWhile_le (p : Char → Bool) (s : List Char) :
    (s.dropWhile p).length ≤ s.length :=
  (List.dropWhile_suffix p).length_le

/-- A reference holds at least its digits. -/
theorem length_lt_of_fixedIssue? {s n r : List Char} (h : fixedIssue? s = some (n, r)) :
    r.length < s.length := by
  obtain ⟨s₁, h₁, h⟩ := Option.bind_eq_some_iff.1 h
  obtain ⟨s₂, h₂, h⟩ := Option.bind_eq_some_iff.1 h
  obtain ⟨_, _, h⟩ := Option.bind_eq_some_iff.1 h
  obtain ⟨s₃, h₃, h⟩ := Option.bind_eq_some_iff.1 h
  obtain ⟨_, hd, h⟩ := Option.bind_eq_some_iff.1 h
  obtain ⟨-, rfl⟩ := Prod.mk.inj (Option.some.inj h)
  have l₁ := length_le_of_dropWord? h₁
  have l₂ := Nat.le_trans (length_le_of_dropLead? h₂) (length_dropWhile_le _ _)
  have l₃ := Nat.le_trans (length_le_of_dropLead? h₃) (length_dropWhile_le _ _)
  cases s₃ with
  | nil => cases hd
  | cons c s₃ =>
    have hc : Text.isDecimalDigit c = true := by
      by_cases hc : Text.isDecimalDigit c = true
      · exact hc
      · rw [List.head?_cons, Option.any_some, eq_false_of_ne_true hc] at hd
        cases hd
    have := length_dropWhile_le Text.isDecimalDigit s₃
    rw [List.dropWhile_cons_of_pos hc]
    simp only [List.length_cons] at l₃
    omega

/-- The numbers of all issues that a text says are fixed, in order. -/
def fixedIssues (s : List Char) : List String :=
  match s with
  | [] => []
  | c :: r =>
    match _h : fixedIssue? (c :: r) with
    | some (number, rest) => String.ofList number :: fixedIssues rest
    | none => fixedIssues r
termination_by s.length
decreasing_by
  · exact length_lt_of_fixedIssue? _h
  · exact Nat.lt_succ_self _

end ReleaseGap.Message
