import Mathlib.Logic.Relation
import ReleaseGap.Change.Classification

/-!
# Commits of release tooling

A commit of release tooling never influences a classification, wherever it stands and whatever its
message says besides.  Lists of revisions that come from each other by putting such commits in and
taking them out are those with the same other revisions, and the others give the count, the dates
and the links.
-/
namespace ReleaseGap

/-- Whether a revision is a change, and no commit of release tooling. -/
def Revision.isChange (r : Revision) : Bool := !Message.isReleaseNoise r.message

/-- One commit of release tooling is put in somewhere. -/
inductive AddsNoise : List Revision → List Revision → Prop
  | at (before after : List Revision) (r : Revision)
      (noise : Message.isReleaseNoise r.message = true) :
      AddsNoise (before ++ after) (before ++ r :: after)

/-- Commits of release tooling are put in and taken out, any number of them at any places. -/
def SameButNoise : List Revision → List Revision → Prop := Relation.EqvGen AddsNoise

section Lists

variable {a b revisions : List Revision}

theorem AddsNoise.filter_eq (h : AddsNoise a b) :
    a.filter Revision.isChange = b.filter Revision.isChange := by
  obtain ⟨before, after, r, noise⟩ := h
  have hr : ¬ r.isChange = true := by simp [Revision.isChange, noise]
  rw [List.filter_append, List.filter_append, List.filter_cons_of_neg hr]

/-- Every list of revisions comes from its changes. -/
theorem sameButNoise_filter (revisions : List Revision) :
    SameButNoise (revisions.filter Revision.isChange) revisions := by
  suffices h : ∀ before, SameButNoise (before ++ revisions.filter Revision.isChange)
      (before ++ revisions) from h []
  induction revisions with
  | nil => exact fun before => .refl _
  | cons r revisions ih =>
    intro before
    by_cases hr : r.isChange = true
    · have h := ih (before ++ [r])
      rw [List.append_assoc, List.append_assoc] at h
      rw [List.filter_cons_of_pos hr]
      exact h
    · have noise : Message.isReleaseNoise r.message = true := by
        simpa [Revision.isChange] using hr
      rw [List.filter_cons_of_neg hr]
      exact .trans _ _ _ (ih before) (.rel _ _ (.at before revisions r noise))

theorem sameButNoise_iff :
    SameButNoise a b ↔ a.filter Revision.isChange = b.filter Revision.isChange := by
  constructor
  · intro h
    induction h with
    | rel a b h => exact h.filter_eq
    | refl a => rfl
    | symm a b _ ih => exact ih.symm
    | trans a b c _ _ hab hbc => exact hab.trans hbc
  · intro h
    exact .trans _ _ _ (.symm _ _ (sameButNoise_filter a)) (h ▸ sameButNoise_filter b)

end Lists

namespace Classifier

variable (c : Classifier) (id declared resolved : String) (revisions : List Revision)
  (known : Overrides.Table)

/-- Only the changes are classified. -/
theorem classify_filter :
    c.classify id declared resolved (revisions.filter Revision.isChange) known =
      c.classify id declared resolved revisions known := by
  have hfilter : (revisions.filter Revision.isChange).filter
      (fun r => !Message.isReleaseNoise r.message) =
        revisions.filter fun r => !Message.isReleaseNoise r.message := by
    rw [List.filter_filter]
    simp [Revision.isChange]
  simp only [classify, hfilter]

/-- The links of the changes stand where the changes stand. -/
theorem flatMap_issueLinks_filter :
    (revisions.filter Revision.isChange).flatMap (fun r => c.issueLinks r.message) =
      revisions.flatMap fun r => if r.isChange then c.issueLinks r.message else [] := by
  induction revisions with
  | nil => rfl
  | cons r revisions ih =>
    rw [List.flatMap_cons, ← ih]
    by_cases hr : r.isChange = true
    · rw [List.filter_cons_of_pos hr, List.flatMap_cons, if_pos hr]
    · rw [List.filter_cons_of_neg hr, if_neg hr, List.nil_append]

/-- Commits of release tooling change neither the classification nor the table that is left.  The
classification counts the changes, its dates are those of the first and the last of them, and its
links are theirs. -/
theorem classify_ignores_noise :
    (∀ others, SameButNoise revisions others →
      c.classify id declared resolved others known =
        c.classify id declared resolved revisions known) ∧
    let classification := (c.classify id declared resolved revisions known).1
    classification.count = revisions.countP Revision.isChange ∧
      classification.firstDate = (revisions.find? Revision.isChange).map (·.date) ∧
      classification.lastDate = (revisions.reverse.find? Revision.isChange).map (·.date) ∧
      (classification.firstDate = none ↔ classification.count = 0) ∧
      (classification.lastDate = none ↔ classification.count = 0) ∧
      classification.fixed =
        revisions.flatMap (fun r => if r.isChange then c.issueLinks r.message else []) ∧
      classification.localized ≤ classification.count := by
  refine ⟨fun others h => ?_, ?_⟩
  · rw [← classify_filter, ← sameButNoise_iff.1 h, classify_filter]
  · intro classification
    let changes := revisions.filter Revision.isChange
    have hcount : classification.count = changes.length := rfl
    have hfirst : classification.firstDate = changes.head?.map (·.date) := rfl
    have hlast : classification.lastDate = changes.getLast?.map (·.date) := rfl
    have hfixed : classification.fixed = changes.flatMap fun r => c.issueLinks r.message := rfl
    refine ⟨?_, ?_, ?_, ?_, ?_, ?_, ?_⟩
    · rw [hcount, List.countP_eq_length_filter]
    · rw [hfirst, List.head?_filter]
    · rw [hlast, ← List.head?_reverse, ← List.filter_reverse, List.head?_filter]
    · rw [hfirst, hcount, Option.map_eq_none_iff, List.head?_eq_none_iff, List.length_eq_zero_iff]
    · rw [hlast, hcount, Option.map_eq_none_iff, List.getLast?_eq_none_iff,
        List.length_eq_zero_iff]
    · rw [hfixed, c.flatMap_issueLinks_filter]
    · exact List.countP_le_length

/-- The commits of release tooling around a change, with a reference to a fixed issue in them. -/
theorem classify_ignores_noise_sample :
    let noise : Revision :=
      { date := { year := 2012, month := 1, day := 2 }
        message := "bumping up POM version FIXED ABC-1" }
    let change : Revision :=
      { date := { year := 2012, month := 1, day := 3 }, message := "FIXED ABC-2" }
    SameButNoise [change] [noise, change, noise] ∧
      (Classifier.mk "" "ABC").classify "a" "1" "1" [noise, change, noise] {} =
        (Classifier.mk "" "ABC").classify "a" "1" "1" [change] {} := by
  intro noise change
  have hnoise : Message.isReleaseNoise noise.message = true := by decide
  have hsame : SameButNoise [change] [noise, change, noise] :=
    .trans _ _ _ (.rel _ _ (.at [] [change] noise hnoise))
      (.rel _ _ (.at [noise, change] [] noise hnoise))
  exact ⟨hsame, (classify_ignores_noise _ _ _ _ _ _).1 _ hsame⟩

end Classifier

end ReleaseGap
