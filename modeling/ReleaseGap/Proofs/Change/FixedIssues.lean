import Mathlib.Data.List.TakeWhile
import ReleaseGap.Change.Classification
import ReleaseGap.Proofs.Change.Reference
import ReleaseGap.Proofs.Text.Cutting

/-!
# The references of a message

The reader of fixed issues goes on behind each reference that it finds.  Nothing is lost by that: no
reference starts inside another one.  The letters of a project end at a hyphen and those of a `fix`
at a space, and nothing else of a reference starts like `fix`.  A line feed is part of no reference,
so the references of texts joined by one are those of the texts.
-/
namespace ReleaseGap

namespace Message

open Pattern
open Text (dropWhile_run takeWhile_run any_head?_run any_head?_dropWhile takeWhile_ne_nil)

/-! ### References -/

/-- Whether a text starts with a reference that has a number and is followed by a rest. -/
def IsReference (s number rest : List Char) : Prop :=
  ∃ word ends project : List Char,
    s = word ++ (ends ++ ' ' :: (project ++ '-' :: (number ++ rest))) ∧
      word.map Text.foldLetter = "fix".toList ∧ (∀ c ∈ ends, isFixEnding c = true) ∧
      project ≠ [] ∧ (∀ c ∈ project, isLetter c = true) ∧
      number ≠ [] ∧ (∀ c ∈ number, Text.isDecimalDigit c = true) ∧
      rest.head?.any Text.isDecimalDigit = false

theorem dropWord?_eq_some_iff {word s r : List Char} :
    Text.dropWord? word s = some r ↔ ∃ lead, s = lead ++ r ∧ lead.map Text.foldLetter = word := by
  induction word generalizing s with
  | nil => simp [Text.dropWord?, eq_comm]
  | cons w word ih =>
    constructor
    · intro h
      cases s with
      | nil => cases h
      | cons c s =>
        rw [Text.dropWord?] at h
        split at h
        · rename_i hc
          obtain ⟨lead, rfl, hlead⟩ := ih.1 h
          exact ⟨c :: lead, rfl, by rw [List.map_cons, hc, hlead]⟩
        · cases h
    · rintro ⟨lead, rfl, hlead⟩
      obtain ⟨c, lead, rfl, hc, hlead⟩ := List.map_eq_cons_iff.1 hlead
      rw [List.cons_append, Text.dropWord?, if_pos hc]
      exact ih.2 ⟨lead, rfl, hlead⟩

/-- The reader reads the references and nothing else. -/
theorem fixedIssue?_eq_some_iff {s number rest : List Char} :
    fixedIssue? s = some (number, rest) ↔ IsReference s number rest := by
  rw [fixedIssue?_eq, Option.bind_eq_some_iff]
  constructor
  · rintro ⟨s₁, hfix, h⟩
    obtain ⟨word, rfl, hword⟩ := dropWord?_eq_some_iff.1 hfix
    obtain ⟨s₂, hends, h⟩ := Option.bind_eq_some_iff.1 h
    have hends : s₁.dropWhile isFixEnding = ' ' :: s₂ := Text.dropLead?_eq_some_iff.1 hends
    split at h
    case isFalse => cases h
    rename_i hletter
    obtain ⟨s₃, hproject, h⟩ := Option.bind_eq_some_iff.1 h
    have hproject : s₂.dropWhile isLetter = '-' :: s₃ := Text.dropLead?_eq_some_iff.1 hproject
    split at h
    case isFalse => cases h
    rename_i hdigit
    obtain ⟨rfl, rfl⟩ := Prod.mk.inj (Option.some.inj h)
    refine ⟨word, s₁.takeWhile isFixEnding, s₂.takeWhile isLetter, ?_, hword,
      fun c hc => List.mem_takeWhile_imp hc, takeWhile_ne_nil hletter,
      fun c hc => List.mem_takeWhile_imp hc, takeWhile_ne_nil hdigit,
      fun c hc => List.mem_takeWhile_imp hc, any_head?_dropWhile _ _⟩
    rw [List.takeWhile_append_dropWhile, ← hproject, List.takeWhile_append_dropWhile, ← hends,
      List.takeWhile_append_dropWhile]
  · rintro ⟨word, ends, project, rfl, hword, hends, hproject, hletters, hnumber, hdigits, hrest⟩
    have hlead (c : Char) (r : List Char) : Text.dropLead? [c] (c :: r) = some r :=
      Text.dropLead?_eq_some_iff.2 rfl
    refine ⟨_, dropWord?_eq_some_iff.2 ⟨word, rfl, hword⟩, ?_⟩
    rw [dropWhile_run hends rfl, hlead, Option.bind_some, if_pos (any_head?_run hproject hletters),
      dropWhile_run hletters rfl, hlead, Option.bind_some,
      if_pos (any_head?_run hnumber hdigits), takeWhile_run hdigits hrest,
      dropWhile_run hdigits hrest]

theorem suffix_of_fixedIssue? (s number rest : List Char)
    (h : fixedIssue? s = some (number, rest)) : number ++ rest <:+ s := by
  obtain ⟨word, ends, project, rfl, -⟩ := fixedIssue?_eq_some_iff.1 h
  exact ⟨word ++ (ends ++ ' ' :: (project ++ ['-'])), by simp⟩

/-- The pattern matches where a reference starts, and its group has the number. -/
theorem markedTextAt?_reference {text : List Char} {position : Nat} (h : position ≤ text.length) :
    reference.markedTextAt? text position =
      (fixedIssue? (text.drop position)).map Prod.fst :=
  Regex.markedTextAt?_of_finds loopsAdvance_reference finds_reference suffix_of_fixedIssue? h

/-! ### Where no reference starts -/

theorem isLetter_of_mem_word {word : List Char} (h : word.map Text.foldLetter = "fix".toList)
    {c : Char} (hc : c ∈ word) : isLetter c = true := by
  have hletters : "fix".toList.all (fun d => 'a' ≤ d && d ≤ 'z') = true := by decide
  exact List.all_eq_true.1 hletters _ (h ▸ List.mem_map_of_mem hc)

/-- A reference starts with a variant of `f`. -/
theorem fixedIssue?_cons_eq_none {c : Char} (h : Text.foldLetter c ≠ 'f') (r : List Char) :
    fixedIssue? (c :: r) = none := by
  have hword : Text.dropWord? "fix".toList (c :: r) = none := if_neg h
  rw [fixedIssue?_eq, hword]
  rfl

/-- The letters of a reference end at a space. -/
theorem fixedIssue?_project_eq_none {project : List Char}
    (h : ∀ c ∈ project, isLetter c = true) (r : List Char) :
    fixedIssue? (project ++ '-' :: r) = none := by
  refine Option.eq_none_iff_forall_ne_some.2 fun ⟨number, rest⟩ hread => ?_
  obtain ⟨word, ends, key, hs, hword, hends, -⟩ := fixedIssue?_eq_some_iff.1 hread
  have hletters : ∀ c ∈ word ++ ends, isLetter c = true :=
    List.forall_mem_append.2
      ⟨fun c => isLetter_of_mem_word hword, fun c hc => isLetter_of_isFixEnding (hends c hc)⟩
  have hdrop := congrArg (List.dropWhile isLetter) hs
  rw [dropWhile_run h rfl, ← List.append_assoc, dropWhile_run hletters rfl] at hdrop
  cases hdrop

theorem foldLetter_ne_of_isDecimalDigit {c : Char} (h : Text.isDecimalDigit c = true) :
    Text.foldLetter c ≠ 'f' := by
  have hzero : ∀ first ∈ Text.zeroDigits, first + 9 < 70 ∨ 102 < first := by decide
  obtain ⟨first, hfirst, hrange⟩ := List.any_eq_true.1 h
  have hcases := hzero first hfirst
  simp only [Bool.and_eq_true, decide_eq_true_eq] at hrange
  have hf : 'f'.toNat = 102 := rfl
  rw [ne_eq, ← Char.toNat_inj, CharSet.toNat_foldLetter, CharSet.foldCode, hf]
  split_ifs <;> omega

theorem foldLetter_ne_of_isFixEnding {c : Char} (h : isFixEnding c = true) :
    Text.foldLetter c ≠ 'f' := by
  intro hc
  simp [isFixEnding, hc] at h

/-! ### The references at all positions -/

/-- The numbers of the references that start at the positions of a text, in their order. -/
def numbersOf (s : List Char) : List (List Char) :=
  (List.range s.length).filterMap fun position => (fixedIssue? (s.drop position)).map Prod.fst

theorem numbersOf_cons (c : Char) (s : List Char) :
    numbersOf (c :: s) = ((fixedIssue? (c :: s)).map Prod.fst).toList ++ numbersOf s := by
  have hlater : (fun position => (fixedIssue? ((c :: s).drop position)).map Prod.fst) ∘ Nat.succ =
      fun position => (fixedIssue? (s.drop position)).map Prod.fst := rfl
  rw [numbersOf, List.length_cons, List.range_succ_eq_map, List.filterMap_cons, List.filterMap_map,
    hlater, List.drop_zero]
  cases (fixedIssue? (c :: s)).map Prod.fst <;> rfl

theorem numbersOf_append_of_forall {part : List Char} (h : ∀ c ∈ part, Text.foldLetter c ≠ 'f')
    (rest : List Char) : numbersOf (part ++ rest) = numbersOf rest := by
  induction part with
  | nil => rfl
  | cons c part ih =>
    obtain ⟨hc, hpart⟩ := List.forall_mem_cons.1 h
    rw [List.cons_append, numbersOf_cons, fixedIssue?_cons_eq_none hc, ih hpart]
    rfl

theorem numbersOf_project {project : List Char} (h : ∀ c ∈ project, isLetter c = true)
    (rest : List Char) : numbersOf (project ++ '-' :: rest) = numbersOf ('-' :: rest) := by
  induction project with
  | nil => rfl
  | cons c project ih =>
    rw [List.cons_append, numbersOf_cons, ← List.cons_append, fixedIssue?_project_eq_none h,
      ih (List.forall_mem_cons.1 h).2]
    rfl

/-- No reference starts inside another one. -/
theorem numbersOf_of_isReference {c : Char} {s number rest : List Char}
    (h : IsReference (c :: s) number rest) : numbersOf s = numbersOf rest := by
  obtain ⟨word, ends, project, hs, hword, hends, -, hletters, -, hdigits, -⟩ := h
  have hfix : word.map Text.foldLetter = 'f' :: ['i', 'x'] := hword
  obtain ⟨f, word, rfl, -, hword⟩ := List.map_eq_cons_iff.1 hfix
  obtain ⟨-, rfl⟩ := List.cons.inj hs
  have hother : ∀ d ∈ word, Text.foldLetter d ≠ 'f' := by
    have hix : ∀ d ∈ ['i', 'x'], d ≠ 'f' := by simp
    exact fun d hd => hix _ (hword ▸ List.mem_map_of_mem hd)
  have hspace : ∀ d ∈ [' '], Text.foldLetter d ≠ 'f' := List.forall_mem_singleton.2 (by decide)
  have hhyphen : ∀ d ∈ ['-'], Text.foldLetter d ≠ 'f' := List.forall_mem_singleton.2 (by decide)
  calc numbersOf (word ++ (ends ++ ' ' :: (project ++ '-' :: (number ++ rest))))
      = numbersOf (ends ++ ' ' :: (project ++ '-' :: (number ++ rest))) :=
        numbersOf_append_of_forall hother _
    _ = numbersOf ([' '] ++ (project ++ '-' :: (number ++ rest))) :=
        numbersOf_append_of_forall (fun d hd => foldLetter_ne_of_isFixEnding (hends d hd)) _
    _ = numbersOf (project ++ '-' :: (number ++ rest)) := numbersOf_append_of_forall hspace _
    _ = numbersOf (['-'] ++ (number ++ rest)) := numbersOf_project hletters _
    _ = numbersOf (number ++ rest) := numbersOf_append_of_forall hhyphen _
    _ = numbersOf rest :=
        numbersOf_append_of_forall (fun d hd => foldLetter_ne_of_isDecimalDigit (hdigits d hd)) _

/-- The reader of fixed issues finds the references at all positions. -/
theorem fixedIssues_eq (s : List Char) : fixedIssues s = (numbersOf s).map String.ofList := by
  fun_induction fixedIssues s with
  | case1 => rfl
  | case2 c r number rest h ih =>
    rw [numbersOf_cons, h, numbersOf_of_isReference (fixedIssue?_eq_some_iff.1 h), ih]
    rfl
  | case3 c r h ih =>
    rw [numbersOf_cons, h, ih]
    rfl

/-! ### Lines -/

theorem ne_newline_of_isLetter {c : Char} (h : isLetter c = true) : c ≠ '\n' :=
  ne_of_isLetter h (by decide)

/-- The text of a reference has no line feed. -/
theorem newline_notMem_reference {word ends project number : List Char}
    (hword : word.map Text.foldLetter = "fix".toList) (hends : ∀ c ∈ ends, isFixEnding c = true)
    (hletters : ∀ c ∈ project, isLetter c = true)
    (hdigits : ∀ c ∈ number, Text.isDecimalDigit c = true) :
    '\n' ∉ word ++ (ends ++ ' ' :: (project ++ '-' :: number)) := by
  have hword' : '\n' ∉ word := fun h => ne_newline_of_isLetter (isLetter_of_mem_word hword h) rfl
  have hends' : '\n' ∉ ends := fun h =>
    ne_newline_of_isLetter (isLetter_of_isFixEnding (hends _ h)) rfl
  have hproject' : '\n' ∉ project := fun h => ne_newline_of_isLetter (hletters _ h) rfl
  have hnumber' : '\n' ∉ number := fun h => absurd (hdigits _ h) (by decide)
  simp [hword', hends', hproject', hnumber']

theorem isReference_append_line {s t number : List Char} :
    (∃ rest, IsReference (s ++ '\n' :: t) number rest) ↔ ∃ rest, IsReference s number rest := by
  constructor
  · rintro ⟨rest, word, ends, project, hs, hword, hends, hproject, hletters, hnumber, hdigits,
      hrest⟩
    have hfeed := newline_notMem_reference hword hends hletters hdigits
    have hs : s ++ '\n' :: t = word ++ (ends ++ ' ' :: (project ++ '-' :: number)) ++ rest := by
      simpa using hs
    obtain ⟨more, hlead, hrest'⟩ | ⟨more, rfl, rfl⟩ := List.append_eq_append_iff.1 hs
    · cases more with
      | nil =>
        refine ⟨[], word, ends, project, ?_, hword, hends, hproject, hletters, hnumber, hdigits,
          rfl⟩
        simpa using hlead.symm
      | cons c more =>
        obtain ⟨rfl, -⟩ := List.cons.inj hrest'
        exact absurd (hlead ▸ List.mem_append_right s List.mem_cons_self) hfeed
    · refine ⟨more, word, ends, project, by simp, hword, hends, hproject, hletters, hnumber,
        hdigits, ?_⟩
      cases more with
      | nil => rfl
      | cons c more => exact hrest
  · rintro ⟨rest, word, ends, project, rfl, hword, hends, hproject, hletters, hnumber, hdigits,
      hrest⟩
    refine ⟨rest ++ '\n' :: t, word, ends, project, by simp, hword, hends, hproject, hletters,
      hnumber, hdigits, ?_⟩
    cases rest with
    | nil => rfl
    | cons c rest => exact hrest

/-- No character of a reference is a line feed. -/
theorem fixedIssue?_append_line (s t : List Char) :
    (fixedIssue? (s ++ '\n' :: t)).map Prod.fst = (fixedIssue? s).map Prod.fst := by
  have hmap (s number : List Char) :
      (fixedIssue? s).map Prod.fst = some number ↔ ∃ rest, IsReference s number rest := by
    simp [Option.map_eq_some_iff, fixedIssue?_eq_some_iff]
  refine Option.ext fun number => ?_
  rw [hmap, hmap, isReference_append_line]

theorem numbersOf_append_line (s t : List Char) :
    numbersOf (s ++ '\n' :: t) = numbersOf s ++ numbersOf t := by
  have hfeed : ∀ c ∈ ['\n'], Text.foldLetter c ≠ 'f' := List.forall_mem_singleton.2 (by decide)
  induction s with
  | nil => exact numbersOf_append_of_forall hfeed t
  | cons c s ih =>
    rw [List.cons_append, numbersOf_cons, numbersOf_cons, ← List.cons_append,
      fixedIssue?_append_line, ih, List.append_assoc]

end Message

/-- A message has one link for each position where the pattern of references matches, in the order
of the positions, with the number that the group of the match has.  The pattern matches where a
reference starts, and its group has all the digits that stand there.  The links of texts joined by a
line feed are those of the texts. -/
theorem issueLinks_eq_links_of_references :
    ∃ r, Pattern.Regex.read? Message.referencePattern = some r ∧
      (∀ (c : Classifier) (message : String),
        c.issueLinks message =
          ((List.range message.toList.length).filterMap (r.markedTextAt? message.toList)).map
            (c.issueLink ∘ String.ofList)) ∧
      (∀ lead s number : List Char,
        r.markedTextAt? (lead ++ s) lead.length = some number ↔
          ∃ rest, Message.IsReference s number rest) ∧
      ∀ (c : Classifier) (a b : String),
        c.issueLinks (a ++ "\n" ++ b) = c.issueLinks a ++ c.issueLinks b := by
  refine ⟨Message.reference, Message.read?_referencePattern, ?_, ?_, ?_⟩
  · intro c message
    have hpositions : Message.numbersOf message.toList =
        (List.range message.toList.length).filterMap
          (Message.reference.markedTextAt? message.toList) := by
      refine List.filterMap_congr fun position hposition => ?_
      rw [Message.markedTextAt?_reference (Nat.le_of_lt (List.mem_range.1 hposition))]
    rw [Classifier.issueLinks, Message.fixedIssues_eq, hpositions, List.map_map]
  · intro lead s number
    rw [Message.markedTextAt?_reference (by simp), List.drop_left]
    simp [Option.map_eq_some_iff, Message.fixedIssue?_eq_some_iff]
  · intro c a b
    have hlines : (a ++ "\n" ++ b).toList = a.toList ++ '\n' :: b.toList := by
      simp
    rw [Classifier.issueLinks, hlines, Message.fixedIssues_eq, Message.numbersOf_append_line,
      List.map_append, List.map_append, ← Message.fixedIssues_eq, ← Message.fixedIssues_eq]
    rfl

end ReleaseGap
