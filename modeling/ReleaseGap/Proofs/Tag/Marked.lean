import Mathlib.Tactic.Common
import ReleaseGap.Tag.Matcher

/-!
# Versions that tags mark

A tag marks a version of a plugin by what follows the plugin's id and an optional hyphen, or as a
whole.  The form of a base says which version that is.
-/
namespace ReleaseGap

/-- A version number: one or more digits, dots and underscores. -/
def IsVersionNumber (s : List Char) : Prop := s ≠ [] ∧ ∀ c ∈ s, isVersionChar c = true

/-- A version number is what follows a plugin's id and an optional hyphen. -/
def FollowsId (id tag version : List Char) : Prop :=
  IsVersionNumber version ∧ (tag = id ++ version ∨ tag = id ++ '-' :: version)

/-- A tag marks a version of a plugin: what follows the id and an optional hyphen, or else the whole
tag. -/
def Marks (id tag version : List Char) : Prop :=
  FollowsId id tag version ∨
    ((∀ v, ¬ FollowsId id tag v) ∧ IsVersionNumber version ∧ tag = version)

namespace TagForm

theorem number?_eq_some_iff {s v : List Char} : number? s = some v ↔ IsVersionNumber v ∧ s = v := by
  rw [number?]
  split
  · rename_i h
    simp only [Bool.and_eq_true, Bool.not_eq_true', List.isEmpty_eq_false_iff,
      List.all_eq_true] at h
    constructor
    · rintro ⟨rfl⟩
      exact ⟨h, rfl⟩
    · rintro ⟨-, rfl⟩
      rfl
  · rename_i h
    simp only [Bool.and_eq_true, Bool.not_eq_true', List.isEmpty_eq_false_iff,
      List.all_eq_true] at h
    constructor
    · exact fun hv => by cases hv
    · rintro ⟨hv, rfl⟩
      exact absurd hv h

theorem numberAfter?_eq_some_iff {base tag v : List Char} :
    numberAfter? base tag = some v ↔ FollowsId base tag v := by
  have hhyphen : ∀ w, IsVersionNumber w → ∀ r, w ≠ '-' :: r := by
    rintro w hw r rfl
    exact absurd (hw.2 '-' List.mem_cons_self) (by decide)
  rw [numberAfter?, FollowsId]
  split
  · rename_i h
    have hlead : ∀ r, tag ≠ base ++ r := by
      intro r hr
      rw [Text.dropLead?_eq_some_iff.2 hr] at h
      cases h
    simp [hlead]
  · rename_i r h
    obtain rfl := Text.dropLead?_eq_some_iff.1 h
    rw [number?_eq_some_iff]
    refine and_congr_right fun hv => ?_
    simp [Ne.symm (hhyphen v hv r)]
  · rename_i r hr h
    obtain rfl := Text.dropLead?_eq_some_iff.1 h
    rw [number?_eq_some_iff]
    refine and_congr_right fun hv => ?_
    have hr : r ≠ '-' :: v := hr v
    simp [hr]

theorem version?_based_eq_some_iff {id tag v : List Char} :
    (TagForm.based id).version? tag = some v ↔ Marks id tag v := by
  simp only [version?, Option.or_eq_some_iff, Option.eq_none_iff_forall_ne_some, ne_eq,
    numberAfter?_eq_some_iff, number?_eq_some_iff, Marks]

end TagForm

theorem isVersionNumber_of_marks {id tag version : List Char} (h : Marks id tag version) :
    IsVersionNumber version := by
  rcases h with h | ⟨-, h, -⟩
  · exact h.1
  · exact h

end ReleaseGap
