import Mathlib.Data.Char
import Mathlib.Data.List.Lex
import ReleaseGap.Proofs.Version.Runs

/-!
# Versions that are numbers

A version of digits, dots and underscores alone is compared as the list of its numbers: of two lists
the one comes first that has the smaller number where they first differ, or that ends there.  Only
numbers of more than 64 bits are an exception, since two of them are compared as texts.
-/
namespace ReleaseGap.Version

/-- Only digits and separators. -/
def IsNumeric (s : List Char) : Prop := ∀ c ∈ s, separates c = true ∨ Decimal.isDigit c = true

instance (s : List Char) : Decidable (IsNumeric s) :=
  decidable_of_iff (s.all fun c => separates c || Decimal.isDigit c) (by simp [IsNumeric])

/-- The digits between dots and underscores. -/
def digitRuns (s : List Char) : List (List Char) :=
  (s.splitOnP separates).filter fun run => !run.isEmpty

/-- The numbers between dots and underscores. -/
def numbers (version : String) : List Nat := (digitRuns version.toList).map Decimal.valueOf

/-- Whether runs are compared as their values: one of them has 64 bits at most, or they have the
same number of digits. -/
def AreComparable (r s : List Char) : Prop :=
  Decimal.valueOf r < 2 ^ 64 ∨ Decimal.valueOf s < 2 ^ 64 ∨ r.length = s.length

instance (r s : List Char) : Decidable (AreComparable r s) :=
  inferInstanceAs (Decidable (_ ∨ _ ∨ _))

theorem isDigit_of_mem_digitRuns {s run : List Char} (hs : IsNumeric s) (h : run ∈ digitRuns s) :
    run ≠ [] ∧ ∀ c ∈ run, Decimal.isDigit c = true := by
  obtain ⟨hsplit, hne⟩ := List.mem_filter.1 h
  refine ⟨by simpa using hne, fun c hc => ?_⟩
  obtain ⟨hmem, hsep⟩ := not_separates_of_mem_splitOnP hsplit c hc
  exact (hs c hmem).resolve_left (by simp [hsep])

/-- Digits make up one run. -/
theorem rawRuns_of_digits {run : List Char} (hne : run ≠ [])
    (h : ∀ c ∈ run, Decimal.isDigit c = true) : rawRuns run = [run] := by
  have hkind : ∀ c ∈ run, kind? c = some .digit := by
    intro c hc
    have hrange : '0' ≤ c ∧ c ≤ '9' := by simpa [Decimal.isDigit] using h c hc
    have hsep : separates c = false := by
      by_contra hsep
      rw [Bool.not_eq_false, separates, Bool.or_eq_true, decide_eq_true_eq,
        decide_eq_true_eq] at hsep
      rcases hsep with rfl | rfl <;> exact absurd hrange (by decide)
    simp [kind?, hsep, hrange]
  exact rawRuns_of_alike hne hkind

/-- The runs of a numeric text that count are the digits between the separators. -/
theorem runs_eq_digitRuns {s : List Char} (hs : IsNumeric s) : runs s = digitRuns s := by
  have hone : ∀ run ∈ digitRuns s, rawRuns run = [run] := fun run hrun =>
    rawRuns_of_digits (isDigit_of_mem_digitRuns hs hrun).1 (isDigit_of_mem_digitRuns hs hrun).2
  calc runs s = (digitRuns s).flatMap rawRuns := runs_eq_flatMap_filter s
    _ = (digitRuns s).flatMap fun run => [run] := List.flatMap_congr hone
    _ = digitRuns s := by simp

theorem readRun_of_digits {run : List Char} (h : ∀ c ∈ run, Decimal.isDigit c = true) :
    readRun run = if Decimal.valueOf run < 2 ^ 64 then .number (Decimal.valueOf run)
      else .text (String.ofList run) := by
  have hall : run.all Char.isDigit = true := by
    rw [← funext Decimal.isDigit_iff]
    exact List.all_eq_true.2 h
  rw [readRun, ← Decimal.valueOf_eq_ofDigitChars]
  simp only [hall, true_and]

/-- Two runs of digits are compared as their values, and as texts if both values are too large. -/
def cmpRuns (r s : List Char) : Ordering :=
  if 2 ^ 64 ≤ Decimal.valueOf r ∧ 2 ^ 64 ≤ Decimal.valueOf s then
    compare (String.ofList r) (String.ofList s)
  else compare (Decimal.valueOf r) (Decimal.valueOf s)

theorem cmp_readRun {r s : List Char} (hr : ∀ c ∈ r, Decimal.isDigit c = true)
    (hs : ∀ c ∈ s, Decimal.isDigit c = true) :
    (readRun r).cmp (readRun s) = cmpRuns r s := by
  rw [readRun_of_digits hr, readRun_of_digits hs, cmpRuns]
  by_cases hrsmall : Decimal.valueOf r < 2 ^ 64
  · rw [if_pos hrsmall]
    by_cases hssmall : Decimal.valueOf s < 2 ^ 64
    · rw [if_pos hssmall, if_neg (by omega), Component.cmp]
    · rw [if_neg hssmall, if_neg (by omega), Component.cmp, Nat.compare_eq_lt.2 (by omega)]
  · rw [if_neg hrsmall]
    by_cases hssmall : Decimal.valueOf s < 2 ^ 64
    · rw [if_pos hssmall, if_neg (by omega), Component.cmp, Nat.compare_eq_gt.2 (by omega)]
    · rw [if_neg hssmall, if_pos (by omega)]
      rfl

/-- Runs of digits that are comparable are compared as their values, since digits of one length are
in the order of their values. -/
theorem cmpRuns_eq_compare {r s : List Char} (hr : ∀ c ∈ r, Decimal.isDigit c = true)
    (hs : ∀ c ∈ s, Decimal.isDigit c = true) (h : AreComparable r s) :
    cmpRuns r s = compare (Decimal.valueOf r) (Decimal.valueOf s) := by
  rw [cmpRuns]
  split
  · rename_i hlarge
    have hlength : r.length = s.length := by
      rcases h with h | h | h <;> omega
    have hlt := Decimal.lt_iff_valueOf_lt hr hs hlength
    have hgt := Decimal.lt_iff_valueOf_lt hs hr hlength.symm
    change (if String.ofList r < String.ofList s then Ordering.lt
      else if String.ofList r = String.ofList s then .eq else .gt) = _
    simp only [String.lt_iff, String.toList_ofList, String.ofList_inj]
    rcases lt_trichotomy r s with h | rfl | h
    · rw [if_pos h, Nat.compare_eq_lt.2 (hlt.1 h)]
    · simp
    · rw [if_neg (not_lt_of_gt h), if_neg (ne_of_gt h), Nat.compare_eq_gt.2 (hgt.1 h)]
  · rfl

/-- Runs of digits compare place by place. -/
theorem cmpComponents_readRun {rs ss : List (List Char)}
    (hrs : ∀ run ∈ rs, ∀ c ∈ run, Decimal.isDigit c = true)
    (hss : ∀ run ∈ ss, ∀ c ∈ run, Decimal.isDigit c = true) :
    cmpComponents (rs.map readRun) (ss.map readRun) = rs.compareLex cmpRuns ss := by
  induction rs generalizing ss with
  | nil =>
    cases ss with
    | nil => rfl
    | cons s ss => rfl
  | cons r rs ih =>
    cases ss with
    | nil => rfl
    | cons s ss =>
      rw [List.forall_mem_cons] at hrs hss
      simp only [List.map_cons, cmpComponents, List.compareLex_cons_cons]
      rw [cmp_readRun hrs.1 hss.1, ih hrs.2 hss.2]

/-- Runs of digits compare as the list of their values, if they are comparable place by place. -/
theorem compareLex_cmpRuns {rs ss : List (List Char)}
    (hrs : ∀ run ∈ rs, ∀ c ∈ run, Decimal.isDigit c = true)
    (hss : ∀ run ∈ ss, ∀ c ∈ run, Decimal.isDigit c = true)
    (h : ∀ p ∈ rs.zip ss, AreComparable p.1 p.2) :
    rs.compareLex cmpRuns ss = compare (rs.map Decimal.valueOf) (ss.map Decimal.valueOf) := by
  induction rs generalizing ss with
  | nil =>
    cases ss with
    | nil => rfl
    | cons s ss => rfl
  | cons r rs ih =>
    cases ss with
    | nil => rfl
    | cons s ss =>
      rw [List.forall_mem_cons] at hrs hss
      rw [List.zip_cons_cons, List.forall_mem_cons] at h
      simp only [List.map_cons, List.compareLex_cons_cons, List.compare_cons_cons]
      rw [cmpRuns_eq_compare hrs.1 hss.1 h.1, ih hrs.2 hss.2 h.2]

theorem compareLoosely_eq_compareLex {a b : String} (ha : IsNumeric a.toList)
    (hb : IsNumeric b.toList) :
    compareLoosely a b = (digitRuns a.toList).compareLex cmpRuns (digitRuns b.toList) := by
  rw [compareLoosely, components_eq_map_runs, components_eq_map_runs, runs_eq_digitRuns ha,
    runs_eq_digitRuns hb]
  exact cmpComponents_readRun (fun _ hrun => (isDigit_of_mem_digitRuns ha hrun).2)
    fun _ hrun => (isDigit_of_mem_digitRuns hb hrun).2

theorem compareLoosely_eq_compare {a b : String} (ha : IsNumeric a.toList) (hb : IsNumeric b.toList)
    (h : ∀ p ∈ (digitRuns a.toList).zip (digitRuns b.toList), AreComparable p.1 p.2) :
    compareLoosely a b = compare (numbers a) (numbers b) := by
  rw [compareLoosely_eq_compareLex ha hb]
  exact compareLex_cmpRuns (fun _ hrun => (isDigit_of_mem_digitRuns ha hrun).2)
    (fun _ hrun => (isDigit_of_mem_digitRuns hb hrun).2) h

theorem compare_eq_gt_iff {as bs : List Nat} : compare as bs = .gt ↔ bs < as := by
  induction as generalizing bs with
  | nil => cases bs <;> simp
  | cons a as ih =>
    cases bs with
    | nil => simp
    | cons b bs =>
      rw [List.compare_cons_cons, Ordering.then_eq_gt, ih, List.cons_lt_cons_iff,
        Nat.compare_eq_gt, Nat.compare_eq_eq, eq_comm (a := a)]

/-- Numeric versions whose numbers have 64 bits at most compare as their numbers do. -/
theorem compareLoosely_eq_gt_iff {a b : String} (ha : IsNumeric a.toList) (hb : IsNumeric b.toList)
    (hsmall : ∀ n ∈ numbers a ++ numbers b, n < 2 ^ 64) :
    compareLoosely a b = .gt ↔ numbers b < numbers a := by
  rw [compareLoosely_eq_compare ha hb, compare_eq_gt_iff]
  intro p hp
  exact .inl (hsmall _ (List.mem_append_left _ (List.mem_map_of_mem (List.of_mem_zip hp).1)))

/-- Numeric versions compare run by run, and so as the lists of their numbers, and are equal if the
lists are, unless two numbers at one place are too large for 64 bits and have different numbers of
digits. -/
theorem compareLoosely_as_numbers {a b : String} (ha : IsNumeric a.toList)
    (hb : IsNumeric b.toList) :
    compareLoosely a b = (digitRuns a.toList).compareLex cmpRuns (digitRuns b.toList) ∧
    ((∀ p ∈ (digitRuns a.toList).zip (digitRuns b.toList), AreComparable p.1 p.2) →
      compareLoosely a b = compare (numbers a) (numbers b) ∧
      (compareLoosely a b = .eq ↔ numbers a = numbers b)) := by
  refine ⟨compareLoosely_eq_compareLex ha hb, fun h => ?_⟩
  have hcmp := compareLoosely_eq_compare ha hb h
  exact ⟨hcmp, by rw [hcmp, Std.compare_eq_iff_eq]⟩

theorem compareLoosely_as_numbers_sample :
    let a := "1_007..99999999999999999999"
    let b := "_1.7.10000000000000000000.2"
    IsNumeric a.toList ∧ IsNumeric b.toList ∧
    (∀ p ∈ (digitRuns a.toList).zip (digitRuns b.toList), AreComparable p.1 p.2) ∧
    numbers a = [1, 7, 99999999999999999999] ∧ numbers b = [1, 7, 10000000000000000000, 2] ∧
    compareLoosely a b = compare (numbers a) (numbers b) ∧
    (compareLoosely a b = .eq ↔ numbers a = numbers b) := by
  intro a b
  have ha : IsNumeric a.toList := by decide +kernel
  have hb : IsNumeric b.toList := by decide +kernel
  have h : ∀ p ∈ (digitRuns a.toList).zip (digitRuns b.toList), AreComparable p.1 p.2 := by
    decide +kernel
  exact ⟨ha, hb, h, by decide +kernel, by decide +kernel, (compareLoosely_as_numbers ha hb).2 h⟩

/-- Of two numbers of more than 64 bits the greater one may come first, and one number may differ
from itself written with a zero in front. -/
theorem compareLoosely_large_numbers :
    let a := "1.99999999999999999999"
    let b := "1.100000000000000000000"
    IsNumeric a.toList ∧ IsNumeric b.toList ∧
    numbers a < numbers b ∧ compareLoosely a b = .gt ∧
    numbers "1.099999999999999999999" = numbers a ∧
    compareLoosely "1.099999999999999999999" a ≠ .eq := by
  decide +kernel

end ReleaseGap.Version
