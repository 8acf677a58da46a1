import Mathlib.Data.List.Basic
import Mathlib.Tactic.Common
import ReleaseGap.Github.Payload

/-!
# The commit that a release was made of

The changes since a release are read from the newest commit down to the one that its tag refers to,
which is the last that counts.  Whether a commit has a readable date decides whether it is among the
changes, and never where they end.
-/
namespace ReleaseGap.Github

/-- The change that a commit makes, if its date can be read. -/
def Commit.revision? (c : Commit) : Option Revision := Revision.ofTimestamp? c.date c.message

variable {boundary : String} {c : Commit} {commits before after : List Commit}

theorem revisionsThrough_cons (c : Commit) (rest : List Commit) (boundary : String) :
    revisionsThrough (c :: rest) boundary
      = c.revision?.toList ++ if c.sha = boundary then [] else revisionsThrough rest boundary := by
  rw [revisionsThrough, Commit.revision?]
  cases Revision.ofTimestamp? c.date c.message <;> rfl

/-- More commits count as long as there was no boundary. -/
theorem revisionsThrough_append (before after : List Commit) (boundary : String) :
    revisionsThrough (before ++ after) boundary = revisionsThrough before boundary ++
      if ∃ c ∈ before, c.sha = boundary then [] else revisionsThrough after boundary := by
  induction before with
  | nil => simp [revisionsThrough]
  | cons c before ih =>
    rw [List.cons_append, revisionsThrough_cons, revisionsThrough_cons, ih]
    by_cases hc : c.sha = boundary <;> simp [hc]

theorem revisionsThrough_eq_filterMap (commits : List Commit) (boundary : String) :
    revisionsThrough commits boundary
      = (commits.take (commits.findIdx (·.sha = boundary) + 1)).filterMap Commit.revision? := by
  induction commits with
  | nil => rfl
  | cons c commits ih =>
    rw [revisionsThrough_cons, List.take_succ_cons, List.filterMap_cons, List.findIdx_cons]
    by_cases hc : c.sha = boundary
    · cases h : c.revision? <;> simp [hc]
    · cases h : c.revision? <;> simp [hc, ih]

/-- Behind a boundary nothing counts. -/
theorem revisionsThrough_append_cons_of_eq (hc : c.sha = boundary) :
    revisionsThrough (before ++ c :: after) boundary
      = revisionsThrough (before ++ [c]) boundary := by
  simp only [revisionsThrough_append before, revisionsThrough_cons, hc, if_true]

/-- A commit without readable date is left out, and it ends the changes if it is the boundary. -/
theorem revisionsThrough_append_cons_of_eq_none (hc : c.revision? = none) :
    revisionsThrough (before ++ c :: after) boundary =
      if c.sha = boundary then revisionsThrough before boundary
      else revisionsThrough (before ++ after) boundary := by
  rw [revisionsThrough_append, revisionsThrough_append before after, revisionsThrough_cons, hc]
  by_cases hbefore : ∃ b ∈ before, b.sha = boundary <;> by_cases hsha : c.sha = boundary <;>
    simp [hbefore, hsha]

theorem revisionsThrough_append_of_ne (h : ∀ c ∈ before, c.sha ≠ boundary) :
    revisionsThrough (before ++ after) boundary
      = revisionsThrough before boundary ++ revisionsThrough after boundary := by
  have hnone : ¬ ∃ c ∈ before, c.sha = boundary := fun ⟨c, hc, hsha⟩ => h c hc hsha
  rw [revisionsThrough_append, if_neg hnone]

/-- Without a boundary all commits count. -/
theorem revisionsThrough_of_ne (h : ∀ c ∈ commits, c.sha ≠ boundary) :
    revisionsThrough commits boundary = commits.filterMap Commit.revision? := by
  have hlength : commits.findIdx (·.sha = boundary) = commits.length :=
    List.findIdx_eq_length.2 fun c hc => by simpa using h c hc
  rw [revisionsThrough_eq_filterMap, hlength, List.take_of_length_le (Nat.le_succ _)]

/-- The changes since a release are those of the commits up to and including the first one with its
sha, or of all commits if there is none, as far as their dates can be read.  So they do not depend
on what stands behind the boundary, a commit without readable date is only left out, and in front of
the boundary they are put together from parts. -/
theorem revisionsThrough_ends_with_boundary (boundary : String) :
    (∀ commits, revisionsThrough commits boundary
      = (commits.take (commits.findIdx (·.sha = boundary) + 1)).filterMap Commit.revision?) ∧
    (∀ before c after, (∀ b ∈ before, b.sha ≠ boundary) → c.sha = boundary →
      revisionsThrough (before ++ c :: after) boundary
        = (before ++ [c]).filterMap Commit.revision?) ∧
    (∀ commits, (∀ c ∈ commits, c.sha ≠ boundary) →
      revisionsThrough commits boundary = commits.filterMap Commit.revision?) ∧
    (∀ before c after after', c.sha = boundary →
      revisionsThrough (before ++ c :: after) boundary
        = revisionsThrough (before ++ c :: after') boundary) ∧
    (∀ before c after, c.revision? = none →
      revisionsThrough (before ++ c :: after) boundary =
        if c.sha = boundary then revisionsThrough before boundary
        else revisionsThrough (before ++ after) boundary) ∧
    ∀ before after, (∀ c ∈ before, c.sha ≠ boundary) →
      revisionsThrough (before ++ after) boundary
        = revisionsThrough before boundary ++ revisionsThrough after boundary := by
  refine ⟨fun commits => revisionsThrough_eq_filterMap commits boundary, ?boundary,
    fun commits h => revisionsThrough_of_ne h, ?behind, fun before c after hc => ?unreadable,
    fun before after h => revisionsThrough_append_of_ne h⟩
  case boundary =>
    intro before c after hbefore hc
    rw [revisionsThrough_append_of_ne hbefore, revisionsThrough_of_ne hbefore,
      revisionsThrough_cons, if_pos hc, List.append_nil, List.filterMap_append]
    cases h : c.revision? <;> simp [h]
  case behind =>
    intro before c after after' hc
    exact (revisionsThrough_append_cons_of_eq hc).trans
      (revisionsThrough_append_cons_of_eq hc).symm
  case unreadable =>
    exact revisionsThrough_append_cons_of_eq_none hc

/-- The boundary has an unreadable date, stands behind such a commit and is there twice. -/
theorem revisionsThrough_ends_with_boundary_sample :
    let newest : Commit := ⟨"c4", "2011-03-04T23:30:00-08:00", "new"⟩
    let undated : Commit := ⟨"c3", "yesterday", "undated"⟩
    let release : Commit := ⟨"c2", "2011-02-30T00:00:00Z", "release"⟩
    let older : Commit := ⟨"c2", "2011-01-01T00:00:00Z", "older"⟩
    release.revision? = none ∧ (∀ c ∈ [newest, undated], c.sha ≠ "c2") ∧
    revisionsThrough ([newest, undated] ++ release :: [older]) "c2"
      = [⟨⟨2011, 3, 4, by decide⟩, "new"⟩] := by
  intro newest undated release older
  have hrelease : release.revision? = none := by decide +kernel
  have hfront : ∀ c ∈ [newest, undated], c.sha ≠ "c2" := by decide
  have hread : [newest, undated].filterMap Commit.revision?
      = [⟨⟨2011, 3, 4, by decide⟩, "new"⟩] := by decide +kernel
  obtain ⟨-, -, hall, -, hunreadable, -⟩ := revisionsThrough_ends_with_boundary "c2"
  refine ⟨hrelease, hfront, ?_⟩
  rw [hunreadable _ _ _ hrelease, if_pos rfl, hall _ hfront, hread]

end ReleaseGap.Github
