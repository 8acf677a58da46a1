import Mathlib.Tactic.Common
import ReleaseGap.Calendar.Reading
import ReleaseGap.Proofs.Decimal.Numeral
import ReleaseGap.Proofs.Text.Cutting

/-!
# Numbers of a fixed width

A number that is read with a fixed count of digits is written with zeros in front up to that count,
and in no other way.
-/
namespace ReleaseGap.Calendar

open Decimal (isDigit valueOf)

namespace Date

variable {width n : Nat}

theorem toList_padded : (padded width n).toList =
    List.replicate (width - (Nat.toDigits 10 n).length) '0' ++ Nat.toDigits 10 n := by
  have hdigits : (toString n).toList = Nat.toDigits 10 n := Nat.toList_repr
  have hlength : (toString n).length = (Nat.toDigits 10 n).length := by
    rw [← hdigits, String.length_toList]
  simp only [padded, String.toList_append, String.toList_ofList, hdigits, hlength]

theorem isDigit_of_mem_padded : ∀ c ∈ (padded width n).toList, isDigit c = true := by
  intro c hc
  rw [toList_padded, List.mem_append] at hc
  rcases hc with hc | hc
  · rw [List.eq_of_mem_replicate hc]
    rfl
  · rw [Decimal.isDigit_iff]
    exact Nat.isDigit_of_mem_toDigits (by decide) (by decide) hc

theorem valueOf_padded : valueOf (padded width n).toList = n := by
  rw [toList_padded, Decimal.valueOf_replicate_append, Decimal.valueOf_eq_ofDigitChars,
    Nat.ofDigitChars_ten_toDigits]

theorem length_padded (hwidth : 0 < width) (h : n < 10 ^ width) :
    (padded width n).toList.length = width := by
  have hle := (Nat.length_toDigits_le_iff (b := 10) (n := n) (by decide) hwidth).2 h
  rw [toList_padded, List.length_append, List.length_replicate]
  omega

theorem exists_padded_eq_cons (hwidth : 0 < width) (hn : n < 10 ^ width) :
    ∃ c s, (padded width n).toList = c :: s ∧ isDigit c = true := by
  have hlength := length_padded hwidth hn
  cases htext : (padded width n).toList with
  | nil =>
    rw [htext, List.length_nil] at hlength
    omega
  | cons c s => exact ⟨c, s, rfl, isDigit_of_mem_padded c (htext ▸ List.mem_cons_self)⟩

/-- A run of digits is the padded text of its value. -/
theorem padded_valueOf {run : List Char} (hrun : ∀ c ∈ run, isDigit c = true) (hne : run ≠ []) :
    (padded run.length (valueOf run)).toList = run :=
  Decimal.eq_of_valueOf_eq isDigit_of_mem_padded hrun
    (length_padded (List.length_pos_of_ne_nil hne) (Decimal.valueOf_lt_pow hrun)) valueOf_padded

end Date

section Numbers

variable {least most width n : Nat} {s r : List Char}

theorem number?_run {run : List Char} (hrun : ∀ c ∈ run, isDigit c = true)
    (hleast : least ≤ run.length) (hmost : run.length ≤ most)
    (hend : run.length = most ∨ r.head?.any isDigit = false) :
    number? least most (run ++ r) = some (valueOf run, r) := by
  have htake : ((run ++ r).take most).takeWhile isDigit = run := by
    rw [List.take_append, List.take_of_length_le hmost]
    apply Text.takeWhile_run hrun
    rcases hend with hlength | hr
    · simp [hlength]
    · cases hsize : most - run.length with
      | zero => simp
      | succ k => cases r <;> simp_all
  simp only [number?, htake, if_neg (Nat.not_lt.2 hleast), List.drop_left]

theorem number?_eq_some (h : number? least most s = some (n, r)) :
    ∃ run, s = run ++ r ∧ (∀ c ∈ run, isDigit c = true) ∧ least ≤ run.length ∧
      run.length ≤ most ∧ valueOf run = n := by
  rw [number?] at h
  generalize hrun : (s.take most).takeWhile isDigit = run at h
  have hpre : run <+: s := hrun ▸ (List.takeWhile_prefix _).trans (List.take_prefix most s)
  split at h
  · cases h
  · next hleast =>
    obtain ⟨rfl, rfl⟩ : valueOf run = n ∧ s.drop run.length = r := by simpa using h
    refine ⟨run, ?_, fun c hc => ?_, Nat.not_lt.1 hleast, ?_, rfl⟩
    · obtain ⟨rest, rfl⟩ := hpre
      rw [List.drop_left]
    · rw [← hrun] at hc
      exact List.mem_takeWhile_imp hc
    · have hshort := (List.takeWhile_prefix (l := s.take most) isDigit).length_le
      rw [hrun] at hshort
      exact hshort.trans (List.length_take_le most s)

theorem number?_padded (hwidth : 0 < width) (hn : n < 10 ^ width) (hleast : least ≤ width) :
    number? least width ((Date.padded width n).toList ++ r) = some (n, r) := by
  have hlength := Date.length_padded hwidth hn
  rw [number?_run Date.isDigit_of_mem_padded (by omega) hlength.le (.inl hlength),
    Date.valueOf_padded]

/-- What is read with a fixed number of digits is the padded text of a number. -/
theorem number?_eq_some_iff (hwidth : 0 < width) :
    number? width width s = some (n, r) ↔
      n < 10 ^ width ∧ (Date.padded width n).toList ++ r = s := by
  constructor
  · intro h
    obtain ⟨run, rfl, hrun, hleast, hmost, rfl⟩ := number?_eq_some h
    obtain rfl : run.length = width := by omega
    have hne : run ≠ [] := List.ne_nil_of_length_pos hwidth
    exact ⟨Decimal.valueOf_lt_pow hrun, by rw [Date.padded_valueOf hrun hne]⟩
  · rintro ⟨hn, rfl⟩
    exact number?_padded hwidth hn le_rfl

theorem literal?_eq_some_iff {c : Char} : literal? c s = some r ↔ c :: r = s := by
  cases s with
  | nil => simp [literal?]
  | cons d s => grind [literal?]

theorem oneOf?_eq_some_iff {p : Char → Bool} {c : Char} :
    oneOf? p s = some (c, r) ↔ p c = true ∧ c :: r = s := by
  cases s with
  | nil => simp [oneOf?]
  | cons d s => grind [oneOf?]

end Numbers

end ReleaseGap.Calendar
