import Mathlib.Algebra.Group.Nat.Defs
import Mathlib.Tactic.Common
import ReleaseGap.Decimal.Numeral

/-!
# Numerals read back

A number written in decimal is read as that number, with or without a sign, wherever it lies within
the bounds of the reader.  Digit strings of one length are in the order of their values.
-/
namespace ReleaseGap.Decimal

theorem isDigit_iff (c : Char) : isDigit c = c.isDigit := by
  simp only [isDigit, Char.isDigit, Char.le_def]

theorem valueOf_eq_ofDigitChars (s : List Char) : valueOf s = Nat.ofDigitChars 10 s 0 := by
  rw [valueOf]
  rw [Nat.ofDigitChars_eq_foldl]
  simp only [digitValue, Nat.mul_comm]

theorem digits?_toDigits (n : Nat) : digits? (Nat.toDigits 10 n) = some n := by
  have hall : (Nat.toDigits 10 n).all isDigit = true := by
    refine List.all_eq_true.2 fun c hc => ?_
    rw [isDigit_iff]
    exact Nat.isDigit_of_mem_toDigits (by decide) (by decide) hc
  have hne : (Nat.toDigits 10 n).isEmpty = false := by
    simp [Nat.toDigits_ne_nil]
  simp [digits?, hall, hne, valueOf_eq_ofDigitChars, Nat.ofDigitChars_ten_toDigits]

/-- Digits begin with a digit, so no reader takes their front for a sign. -/
theorem exists_toDigits_eq_cons (n : Nat) :
    ∃ c r, Nat.toDigits 10 n = c :: r ∧ c ≠ '+' ∧ c ≠ '-' := by
  cases h : Nat.toDigits 10 n with
  | nil => exact absurd h Nat.toDigits_ne_nil
  | cons c r =>
    have hc : c.isDigit = true :=
      Nat.isDigit_of_mem_toDigits (by decide) (by decide) (h ▸ List.mem_cons_self)
    refine ⟨c, r, rfl, ?_, ?_⟩ <;> rintro rfl <;> revert hc <;> decide

/-- A natural number reads back below the bound. -/
theorem natBelow?_toDigits {bound n : Nat} (h : n < bound) :
    natBelow? bound (Nat.toDigits 10 n) = some n := by
  obtain ⟨c, r, hcons, hplus, -⟩ := exists_toDigits_eq_cons n
  have hbody : natBelow? bound (Nat.toDigits 10 n)
      = (digits? (Nat.toDigits 10 n)).filter (· < bound) := by
    simp only [natBelow?]
    rw [hcons]
    split
    · rename_i heq
      exact absurd (List.cons.inj heq).1 hplus
    · rfl
  rw [hbody, digits?_toDigits]
  simp [Option.filter, h]

/-- An integer within the bounds reads back. -/
theorem intWithin?_intText {bound : Nat} {i : Int} (hlow : -(bound : Int) ≤ i)
    (hhigh : i < bound) : intWithin? bound (intText i).toList = some i := by
  cases i with
  | ofNat n =>
    obtain ⟨c, r, hcons, -, hminus⟩ := exists_toDigits_eq_cons n
    have htext : (intText (Int.ofNat n)).toList = Nat.toDigits 10 n := Nat.toList_repr
    have hbody : intWithin? bound (Nat.toDigits 10 n)
        = (natBelow? bound (Nat.toDigits 10 n)).map Int.ofNat := by
      simp only [intWithin?]
      rw [hcons]
      split
      · rename_i heq
        exact absurd (List.cons.inj heq).1 hminus
      · rfl
    have hn : n < bound := by simpa using hhigh
    rw [htext, hbody, natBelow?_toDigits hn]
    rfl
  | negSucc n =>
    have htext : (intText (Int.negSucc n)).toList = '-' :: Nat.toDigits 10 (n + 1) := by
      change ("-" ++ Nat.repr (n + 1)).toList = _
      rw [String.toList_append, Nat.toList_repr]
      rfl
    have hn : n + 1 ≤ bound := by omega
    rw [htext]
    simp only [intWithin?, digits?_toDigits, Option.filter, hn, decide_true, if_true]
    rfl

theorem valueOf_cons (c : Char) (s : List Char) :
    valueOf (c :: s) = 10 ^ s.length * digitValue c + valueOf s := by
  rw [valueOf_eq_ofDigitChars, Nat.ofDigitChars_cons, Nat.ofDigitChars_eq_ofDigitChars_zero,
    ← valueOf_eq_ofDigitChars, Nat.mul_zero, Nat.zero_add]
  rfl

theorem toNat_of_isDigit {c : Char} (h : isDigit c = true) :
    '0'.toNat ≤ c.toNat ∧ c.toNat ≤ '9'.toNat := by
  have hrange : '0' ≤ c ∧ c ≤ '9' := by simpa [isDigit] using h
  exact hrange

theorem utf8Size_of_isDigit {c : Char} (h : isDigit c = true) : c.utf8Size = 1 := by
  have hhigh : c.toNat ≤ 57 := (toNat_of_isDigit h).2
  rw [Char.utf8Size_eq_one_iff, UInt32.le_iff_toNat_le]
  change c.toNat ≤ 127
  omega

theorem digitValue_lt {c : Char} (h : isDigit c = true) : digitValue c < 10 := by
  have hhigh := (toNat_of_isDigit h).2
  have h0 : '0'.toNat = 48 := rfl
  have h9 : '9'.toNat = 57 := rfl
  rw [digitValue]
  omega

theorem valueOf_lt_pow {s : List Char} (h : ∀ c ∈ s, isDigit c = true) :
    valueOf s < 10 ^ s.length := by
  induction s with
  | nil => simp [valueOf]
  | cons c s ih =>
    have hc := digitValue_lt (h c List.mem_cons_self)
    have hs := ih fun d hd => h d (List.mem_cons_of_mem c hd)
    have hstep : 10 ^ s.length * digitValue c ≤ 10 ^ s.length * 9 :=
      Nat.mul_le_mul_left _ (by omega)
    rw [valueOf_cons, List.length_cons, Nat.pow_succ]
    omega

/-- Digits count in the order of the characters. -/
theorem digitValue_lt_iff {c d : Char} (hc : isDigit c = true) (hd : isDigit d = true) :
    digitValue c < digitValue d ↔ c < d := by
  have hlow := (toNat_of_isDigit hc).1
  have hlow' := (toNat_of_isDigit hd).1
  change c.toNat - '0'.toNat < d.toNat - '0'.toNat ↔ c.toNat < d.toNat
  omega

theorem digitValue_inj {c d : Char} (hc : isDigit c = true) (hd : isDigit d = true) :
    digitValue c = digitValue d ↔ c = d := by
  refine ⟨fun h => ?_, fun h => h ▸ rfl⟩
  have hcd := (digitValue_lt_iff hc hd).not.1 (by omega)
  have hdc := (digitValue_lt_iff hd hc).not.1 (by omega)
  exact Char.le_antisymm (Char.not_lt.1 hdc) (Char.not_lt.1 hcd)

/-- Of two digit strings of one length the one that comes first has the smaller value. -/
theorem lt_iff_valueOf_lt {s t : List Char} (hs : ∀ c ∈ s, isDigit c = true)
    (ht : ∀ c ∈ t, isDigit c = true) (hlength : s.length = t.length) :
    s < t ↔ valueOf s < valueOf t := by
  induction s generalizing t with
  | nil =>
    obtain rfl : t = [] := List.length_eq_zero_iff.1 hlength.symm
    simp
  | cons c s ih =>
    obtain ⟨d, t, rfl⟩ := List.exists_cons_of_length_eq_add_one hlength.symm
    have hlength : s.length = t.length := Nat.succ.inj hlength
    have hs' : ∀ e ∈ s, isDigit e = true := fun e he => hs e (List.mem_cons_of_mem c he)
    have ht' : ∀ e ∈ t, isDigit e = true := fun e he => ht e (List.mem_cons_of_mem d he)
    have hc := hs c List.mem_cons_self
    have hd := ht d List.mem_cons_self
    have hsmall : valueOf s < 10 ^ t.length := hlength ▸ valueOf_lt_pow hs'
    have tsmall := valueOf_lt_pow ht'
    rw [List.cons_lt_cons_iff, ih hs' ht' hlength, valueOf_cons, valueOf_cons, hlength,
      ← digitValue_lt_iff hc hd, ← digitValue_inj hc hd]
    -- The first digits decide, as what follows them is less than one unit of theirs.
    rcases Nat.lt_trichotomy (digitValue c) (digitValue d) with hlt | heq | hgt
    · have hstep : 10 ^ t.length * (digitValue c + 1) ≤ 10 ^ t.length * digitValue d :=
        Nat.mul_le_mul_left _ hlt
      rw [Nat.mul_add] at hstep
      omega
    · rw [heq]
      omega
    · have hstep : 10 ^ t.length * (digitValue d + 1) ≤ 10 ^ t.length * digitValue c :=
        Nat.mul_le_mul_left _ hgt
      rw [Nat.mul_add] at hstep
      omega

/-- Zeros in front add nothing. -/
theorem valueOf_replicate_append (k : Nat) (s : List Char) :
    valueOf (List.replicate k '0' ++ s) = valueOf s := by
  induction k with
  | zero => rfl
  | succ k ih =>
    have hzero : digitValue '0' = 0 := rfl
    rw [List.replicate_succ, List.cons_append, valueOf_cons, ih, hzero, Nat.mul_zero,
      Nat.zero_add]

/-- Digit strings of one length are told apart by their values. -/
theorem eq_of_valueOf_eq {s t : List Char} (hs : ∀ c ∈ s, isDigit c = true)
    (ht : ∀ c ∈ t, isDigit c = true) (hlength : s.length = t.length)
    (h : valueOf s = valueOf t) : s = t := by
  have hst := (lt_iff_valueOf_lt hs ht hlength).not.2 (by omega)
  have hts := (lt_iff_valueOf_lt ht hs hlength.symm).not.2 (by omega)
  exact List.le_antisymm (List.not_lt.1 hts) (List.not_lt.1 hst)

end ReleaseGap.Decimal
