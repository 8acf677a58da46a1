import Mathlib.Data.List.Lex
import Mathlib.Data.String.Basic
import Mathlib.Data.Sum.Order
import ReleaseGap.Version.Loose

/-!
# The order of versions

Loose comparison puts all texts into one order: numbers stand in front of texts, and versions are
ordered by their components as words are by their letters.  Two versions are equal in it if their
components are the same, however they are spelled.
-/
namespace ReleaseGap.Version

namespace Component

/-- Where a component stands among all components: a number in front of every text. -/
def position : Component → ℕ ⊕ₗ String
  | .number n => Sum.inlₗ n
  | .text s => Sum.inrₗ s

theorem cmp_eq_lt_iff {a b : Component} : a.cmp b = .lt ↔ a.position < b.position := by
  cases a with
  | number m =>
    cases b with
    | number n => simp [cmp, position, Nat.compare_eq_lt]
    | text t => simp [cmp, position]
  | text s =>
    cases b with
    | number n => simp [cmp, position]
    | text t =>
      simp only [cmp, position, Sum.Lex.inr_lt_inr_iff]
      split
      · simp_all
      · split <;> simp_all

theorem cmp_eq_eq_iff {a b : Component} : a.cmp b = .eq ↔ a = b := by
  cases a with
  | number m => cases b <;> simp [cmp]
  | text s =>
    cases b with
    | number n => simp [cmp]
    | text t =>
      simp only [cmp, text.injEq]
      split
      · simp_all [ne_of_lt]
      · split <;> simp_all

theorem position_inj {a b : Component} : a.position = b.position ↔ a = b := by
  cases a <;> cases b <;> simp [position]

theorem cmp_eq_gt_iff {a b : Component} : a.cmp b = .gt ↔ b.position < a.position := by
  rcases lt_trichotomy a.position b.position with h | h | h
  · simp [cmp_eq_lt_iff.2 h, not_lt_of_gt h]
  · simp [cmp_eq_eq_iff.2 (position_inj.1 h), h]
  · have hlt : a.cmp b ≠ .lt := fun hlt => not_lt_of_gt h (cmp_eq_lt_iff.1 hlt)
    have heq : a.cmp b ≠ .eq := fun heq => ne_of_gt h (position_inj.2 (cmp_eq_eq_iff.1 heq))
    cases hcmp : a.cmp b <;> simp_all

end Component

/-- Where a version stands among all versions. -/
def position (version : String) : List (ℕ ⊕ₗ String) :=
  (components version).map Component.position

theorem cmpComponents_eq_gt_iff {as bs : List Component} :
    cmpComponents as bs = .gt ↔ bs.map Component.position < as.map Component.position := by
  induction as generalizing bs with
  | nil => cases bs <;> simp [cmpComponents]
  | cons a as ih =>
    cases bs with
    | nil => simp [cmpComponents]
    | cons b bs =>
      rw [cmpComponents, Ordering.then_eq_gt, ih, List.map_cons, List.map_cons,
        List.cons_lt_cons_iff, Component.cmp_eq_gt_iff, Component.cmp_eq_eq_iff,
        Component.position_inj, eq_comm (a := a)]

theorem cmpComponents_eq_eq_iff {as bs : List Component} :
    cmpComponents as bs = .eq ↔ as = bs := by
  induction as generalizing bs with
  | nil => cases bs <;> simp [cmpComponents]
  | cons a as ih =>
    cases bs with
    | nil => simp [cmpComponents]
    | cons b bs =>
      rw [cmpComponents, Ordering.then_eq_eq, ih, Component.cmp_eq_eq_iff, List.cons.injEq]

theorem position_eq_position_iff {a b : String} :
    position a = position b ↔ compareLoosely a b = .eq := by
  rw [compareLoosely, cmpComponents_eq_eq_iff, position, position]
  exact (List.map_injective_iff.2 fun _ _ => Component.position_inj.1).eq_iff

/-- Versions compare as their positions, so that any two of them compare and the order is
transitive. -/
theorem compareLoosely_eq_gt_iff_position {a b : String} :
    compareLoosely a b = .gt ↔ position b < position a := cmpComponents_eq_gt_iff

theorem compareLoosely_eq_lt_iff_position {a b : String} :
    compareLoosely a b = .lt ↔ position a < position b := by
  rcases lt_trichotomy (position a) (position b) with h | h | h
  · have hgt : compareLoosely a b ≠ .gt := fun hgt =>
      not_lt_of_gt h (compareLoosely_eq_gt_iff_position.1 hgt)
    have heq : compareLoosely a b ≠ .eq := fun heq => ne_of_lt h (position_eq_position_iff.2 heq)
    cases hcmp : compareLoosely a b <;> simp_all
  · simp [position_eq_position_iff.1 h, h]
  · simp [compareLoosely_eq_gt_iff_position.2 h, not_lt_of_gt h]

end ReleaseGap.Version
