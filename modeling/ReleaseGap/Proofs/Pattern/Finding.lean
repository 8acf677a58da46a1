import ReleaseGap.Proofs.Pattern.Literal
import ReleaseGap.Proofs.Pattern.Membership

/-!
# What patterns without alternatives find

A pattern that is sets of characters in a row, some of them repeated, reads a text from left to
right and never has to give back what a repetition took, as long as no repetition can take what
stands behind it.  `Finds` says of a part of a pattern what it reads; there is one lemma for each
construct.
-/
namespace ReleaseGap.Pattern

/-- What is read of a text: the text of the group, and what follows it. -/
abbrev Reads := List Char → Option (List Char × List Char)

namespace Reads

/-- Reads behind one character of a set. -/
def afterOne (set : CharSet) (read : Reads) : Reads
  | [] => none
  | c :: r => if set.contains c then read r else none

/-- Reads behind as many characters of a set as there are. -/
def afterRun (set : CharSet) (read : Reads) : Reads := fun s => read (s.dropWhile set.contains)

/-- Reads a group at the end of the pattern, of one or more characters of a set. -/
def groupOf (set : CharSet) : Reads
  | [] => none
  | c :: r =>
    if set.contains c then some (c :: r.takeWhile set.contains, r.dropWhile set.contains) else none

end Reads

/-- The ends of the group in a text with `length` characters. -/
def endsOf (length : Nat) (found : List Char × List Char) : Ends :=
  ⟨some (length - (found.1.length + found.2.length)), some (length - found.2.length)⟩

/-- What stands behind a part of a pattern finds, at every place, what `read` reads there. -/
def Finds (rest : Rest) (read : Reads) : Prop :=
  ∀ ends place,
    rest ends place = (read place.after).map (endsOf (place.offset + place.after.length))

namespace Finds

open Reads

variable {rest : Rest} {read : Reads} {set : CharSet}

theorem chars (h : Finds rest read) :
    Finds ((Regex.chars set).before rest) (.afterOne set read) := by
  intro ends place
  cases hafter : place.after with
  | nil => rw [Regex.before_chars_of_nil hafter]; rfl
  | cons c more =>
    have hlength : place.offset + 1 + more.length = place.offset + (c :: more).length := by
      rw [List.length_cons]
      omega
    rw [Regex.before_chars_of_cons hafter, h, afterOne, ← hlength]
    split <;> rfl

/-- A repetition takes all the characters that it can, for nothing is read where it could go on. -/
theorem loop (h : Finds rest read)
    (hstop : ∀ c r, set.contains c = true → read (c :: r) = none) :
    Finds (Regex.loop true (Regex.chars set).before rest) (afterRun set read) := by
  intro ends ⟨left, after, offset⟩
  induction after generalizing left offset with
  | nil =>
    rw [Regex.loop, Regex.before_chars_of_nil rfl, h]
    rfl
  | cons c more ih =>
    have hlt : more.length < (c :: more).length := Nat.lt_succ_self _
    rw [Regex.loop, Regex.before_chars_of_cons rfl, h, choose, if_pos rfl, Place.past, if_pos hlt,
      ih]
    by_cases hc : set.contains c = true
    · have hlength : offset + 1 + more.length = offset + (c :: more).length := by
        rw [List.length_cons]
        omega
      rw [if_pos hc, hstop c more hc, Option.map_none, Option.or_none, afterRun, afterRun,
        List.dropWhile_cons_of_pos hc, ← hlength]
    · rw [if_neg hc, Option.none_or, afterRun, List.dropWhile_cons_of_neg hc]

theorem zeroOrMore (h : Finds rest read)
    (hstop : ∀ c r, set.contains c = true → read (c :: r) = none) :
    Finds ((Regex.repeated true 0 none (.chars set)).before rest) (afterRun set read) :=
  h.loop hstop

theorem oneOrMore (h : Finds rest read)
    (hstop : ∀ c r, set.contains c = true → read (c :: r) = none) :
    Finds ((Regex.repeated true 1 none (.chars set)).before rest)
      (afterOne set (afterRun set read)) :=
  (h.loop hstop).chars

theorem loop_accept (ends : Ends) (place : Place) :
    Regex.loop true (Regex.chars set).before
        (fun ends place => some { ends with stop := some place.offset }) ends place =
      some { ends with
        stop := some (place.offset + (place.after.takeWhile set.contains).length) } := by
  obtain ⟨left, after, offset⟩ := place
  induction after generalizing left offset with
  | nil =>
    rw [Regex.loop, Regex.before_chars_of_nil rfl]
    rfl
  | cons c more ih =>
    have hlt : more.length < (c :: more).length := Nat.lt_succ_self _
    rw [Regex.loop, Regex.before_chars_of_cons rfl, choose, if_pos rfl, Place.past, if_pos hlt, ih]
    by_cases hc : set.contains c = true
    · rw [if_pos hc, Option.some_or, List.takeWhile_cons_of_pos hc, List.length_cons]
      have hlength : offset + 1 + (more.takeWhile set.contains).length =
          offset + ((more.takeWhile set.contains).length + 1) := by
        omega
      exact congrArg (fun stop => some (⟨ends.start, some stop⟩ : Ends)) hlength
    · rw [if_neg hc, Option.none_or, List.takeWhile_cons_of_neg hc]
      rfl

theorem group :
    Finds ((Regex.marked (.repeated true 1 none (.chars set))).before fun ends _ => some ends)
      (groupOf set) := by
  intro ends place
  have hgroup :
      (Regex.marked (.repeated true 1 none (.chars set))).before (fun ends _ => some ends) ends
          place =
        (Regex.chars set).before
          (Regex.loop true (Regex.chars set).before fun ends place =>
            some { ends with stop := some place.offset })
          { ends with start := some place.offset } place := rfl
  rw [hgroup]
  cases hafter : place.after with
  | nil => rw [Regex.before_chars_of_nil hafter]; rfl
  | cons c more =>
    rw [Regex.before_chars_of_cons hafter, loop_accept, groupOf]
    by_cases hc : set.contains c = true
    · have hmore : (more.takeWhile set.contains).length + (more.dropWhile set.contains).length =
          more.length := by
        rw [← List.length_append, List.takeWhile_append_dropWhile]
      have hstart : place.offset + (more.length + 1) - ((more.takeWhile set.contains).length + 1 +
          (more.dropWhile set.contains).length) = place.offset := by
        omega
      have hstop : place.offset + (more.length + 1) - (more.dropWhile set.contains).length =
          place.offset + 1 + (more.takeWhile set.contains).length := by
        omega
      rw [if_pos hc, if_pos hc, Option.map_some, endsOf, List.length_cons, List.length_cons, hstart,
        hstop]
      rfl
    · rw [if_neg hc, if_neg hc]
      rfl

end Finds

/-- The text of the group in the match that starts at a position, if one starts there. -/
def Regex.markedTextAt? (r : Regex) (text : List Char) (position : Nat) : Option (List Char) := do
  let (start, program) := Program.ofRegex r
  let place : Place := ⟨(text.take position).getLast?, text.drop position, position⟩
  let found ← matchAt? start program place
  let first ← found.markStart
  let last ← found.markEnd
  return (text.take last).drop first

/-- Where a pattern finds what `read` reads, the text of its group is what is read. -/
theorem Regex.markedTextAt?_of_finds {r : Regex} {read : Reads} (h : r.loopsAdvance = true)
    (hfinds : Finds (r.before fun ends _ => some ends) read)
    (hread : ∀ s number rest, read s = some (number, rest) → number ++ rest <:+ s)
    {text : List Char} {position : Nat} (hposition : position ≤ text.length) :
    r.markedTextAt? text position = (read (text.drop position)).map Prod.fst := by
  have hlength : position + (text.drop position).length = text.length := by
    rw [List.length_drop]
    omega
  have hmatch := matchAt?_ofRegex h ⟨(text.take position).getLast?, text.drop position, position⟩
  rw [found?, hfinds, hlength] at hmatch
  have hmarked : r.markedTextAt? text position =
      ((matchAt? (Program.ofRegex r).1 (Program.ofRegex r).2
        ⟨(text.take position).getLast?, text.drop position, position⟩).map Thread.ends).bind
        fun ends => ends.start.bind fun first => ends.stop.map fun last =>
          (text.take last).drop first := by
    rw [Option.bind_map]
    change Option.bind _ _ = _
    congr 1
    funext thread
    obtain ⟨step, start, stop⟩ := thread
    cases start <;> cases stop <;> rfl
  rw [hmarked, hmatch]
  cases hs : read (text.drop position) with
  | none => rfl
  | some found =>
    obtain ⟨number, rest⟩ := found
    obtain ⟨first, hfirst⟩ := (hread _ _ _ hs).trans (List.drop_suffix position text)
    have hstart : text.length - (number.length + rest.length) = first.length := by
      rw [← hfirst]
      simp
    have hstop : text.length - rest.length = (first ++ number).length := by
      rw [← hfirst]
      simp
      omega
    simp only [endsOf, Option.map_some, Option.bind_some, hstart, hstop]
    rw [← hfirst, ← List.append_assoc, List.take_left, List.drop_left]

end ReleaseGap.Pattern
