import Mathlib.Data.List.Sort
import Mathlib.Tactic.Common
import ReleaseGap.Pattern.Basic
import ReleaseGap.Pattern.Fold
import ReleaseGap.Pattern.Property
import ReleaseGap.Text.Caseless
import ReleaseGap.Text.Digit

/-!
# Members of sets

Which characters a set has.  Sorting and joining ranges changes no member.  A set of ASCII
characters that is folded has all characters that are variants of its members, and the set of digits
has the decimal digits of all scripts.
-/
namespace ReleaseGap.Pattern

namespace CharSet

variable {s : CharSet} {n : Nat}

theorem contains_eq_has (s : CharSet) (c : Char) : s.contains c = s.has c.toNat := rfl

theorem has_cons (a b : Nat) (s : CharSet) (n : Nat) :
    has ((a, b) :: s) n = (decide (a ≤ n ∧ n ≤ b) || s.has n) := by
  simp [has]

/-! ### Ranges -/

/-- Ranges in the order of their first members keep their members when they are joined. -/
theorem has_join (h : s.Pairwise fun a b => a.1 ≤ b.1) (n : Nat) : has (join s) n = s.has n := by
  fun_induction join s with
  | case1 a b c d rest htouch ih =>
    obtain ⟨hhead, hrest⟩ := List.pairwise_cons.1 h
    have hle : a ≤ c := hhead (c, d) List.mem_cons_self
    have hjoined : ((a, max b d) :: rest).Pairwise fun a b => a.1 ≤ b.1 :=
      List.pairwise_cons.2 ⟨fun r hr => hhead r (List.mem_cons_of_mem _ hr), hrest.of_cons⟩
    have hrange : (a ≤ n ∧ n ≤ max b d) ↔ (a ≤ n ∧ n ≤ b) ∨ (c ≤ n ∧ n ≤ d) := by omega
    rw [ih hjoined, has_cons, has_cons, has_cons, ← Bool.or_assoc, decide_eq_decide.2 hrange,
      Bool.decide_or]
  | case2 a b c d rest hgap ih => rw [has_cons, has_cons a b, ih h.of_cons]
  | case3 s hs => rfl

theorem length_join_le (s : CharSet) : (join s).length ≤ s.length := by
  fun_induction join s with
  | case1 a b c d rest htouch ih => exact Nat.le_succ_of_le ih
  | case2 a b c d rest hgap ih => exact Nat.succ_le_succ ih
  | case3 s hs => exact Nat.le_refl _

instance : Std.Total fun a b : Nat × Nat => a.1 ≤ b.1 := ⟨fun a b => Nat.le_total a.1 b.1⟩

instance : IsTrans (Nat × Nat) fun a b => a.1 ≤ b.1 := ⟨fun _ _ _ => Nat.le_trans⟩

theorem has_ofRanges (ranges : List (Nat × Nat)) (n : Nat) :
    has (ofRanges ranges) n = has ranges n := by
  have hsorted := List.pairwise_mergeSort' (fun a b : Nat × Nat => a.1 ≤ b.1) ranges
  rw [ofRanges, has_join hsorted]
  exact (List.mergeSort_perm ranges _).any_eq

theorem length_ofRanges_le (ranges : List (Nat × Nat)) :
    (ofRanges ranges).length ≤ ranges.length :=
  Nat.le_trans (length_join_le _) (Nat.le_of_eq (List.length_mergeSort ranges))

/-! ### Folding -/

theorem mem_foldImages {i : Nat} :
    i ∈ foldImages s ↔ ∃ m, (m, i) ∈ foldPairs ∧ (s.has m = true ∨ s.has i = true) := by
  simp [foldImages]

theorem has_singles (ns : List Nat) : has (ns.map fun m => (m, m)) n = true ↔ n ∈ ns := by
  induction ns with
  | nil => simp [has]
  | cons m ns ih =>
    have hsame : (m ≤ n ∧ n ≤ m) ↔ n = m := by omega
    rw [List.map_cons, has_cons, Bool.or_eq_true, ih, decide_eq_true_eq, List.mem_cons, hsame]

/-- Folding adds the images of members, the members that are images, and what else has such an
image. -/
theorem has_fold_iff :
    s.fold.has n = true ↔
      s.has n = true ∨ n ∈ foldImages s ∨ ∃ i ∈ foldImages s, (n, i) ∈ foldPairs := by
  have hothers : (foldPairs.filter fun p => (foldImages s).contains p.2).map (fun p => (p.1, p.1)) =
      ((foldPairs.filter fun p => (foldImages s).contains p.2).map Prod.fst).map
        fun m => (m, m) := by
    rw [List.map_map]
    rfl
  have hmem : n ∈ (foldPairs.filter fun p => (foldImages s).contains p.2).map Prod.fst ↔
      ∃ i ∈ foldImages s, (n, i) ∈ foldPairs := by
    simp [and_comm]
  rw [← hmem, ← has_singles, ← has_singles, ← hothers, fold]
  dsimp only
  split
  · rename_i hempty
    rw [List.isEmpty_iff.1 hempty]
    simp [has]
  · rw [has_ofRanges, has, List.any_append, List.any_append, Bool.or_eq_true, Bool.or_eq_true,
      or_assoc]
    rfl

/-- The code of the lower-case ASCII letter that a character is a variant of. -/
def foldCode (n : Nat) : Nat :=
  if 65 ≤ n ∧ n ≤ 90 then n + 32 else if n = 383 then 115 else if n = 8490 then 107 else n

theorem toNat_foldLetter (c : Char) : (Text.foldLetter c).toNat = foldCode c.toNat := by
  rw [Text.foldLetter, foldCode]
  by_cases hs : c = 'ſ'
  · subst hs
    decide
  by_cases hk : c = '\u212A'
  · subst hk
    decide
  have hs' : c.toNat ≠ 383 := fun h => hs (Char.toNat_inj.1 h)
  have hk' : c.toNat ≠ 8490 := fun h => hk (Char.toNat_inj.1 h)
  rw [if_neg hs, if_neg hk, if_neg hs', if_neg hk']
  have hupper : (c.val ≥ 'A'.val ∧ c.val ≤ 'Z'.val) ↔ 65 ≤ c.toNat ∧ c.toNat ≤ 90 := by
    simp only [ge_iff_le, UInt32.le_iff_toNat_le]
    exact Iff.rfl
  by_cases h : c.val ≥ 'A'.val ∧ c.val ≤ 'Z'.val
  · obtain ⟨hleast, hmost⟩ := hupper.1 h
    have hlower : c.toLower.toNat = (c.val + ('a'.val - 'A'.val)).toNat :=
      congrArg Char.toNat (dif_pos h)
    rw [if_pos ⟨hleast, hmost⟩, hlower, UInt32.toNat_add]
    have hcode : c.val.toNat = c.toNat := rfl
    have hmove : ('a'.val - 'A'.val).toNat = 32 := by decide
    rw [hcode, hmove]
    exact Nat.mod_eq_of_lt (by omega)
  · rw [if_neg (mt hupper.2 h)]
    exact congrArg Char.toNat (dif_neg h)

theorem foldCode_foldCode (n : Nat) : foldCode (foldCode n) = foldCode n := by
  simp only [foldCode]
  split_ifs <;> omega

theorem foldCode_lt (h : n < 128) : foldCode n < 128 := by
  rw [foldCode]
  split_ifs <;> omega

theorem filter_foldPairs :
    (foldPairs.filter fun p => p.1 < 128 || p.2 < 128) =
      (List.range 26).map (fun k => (65 + k, 97 + k)) ++ [(383, 115), (8490, 107)] := by
  decide +kernel

/-- The pairs of the table with an ASCII character are those of letters and their variants. -/
theorem mem_foldPairs_iff {m i : Nat} (h : m < 128 ∨ i < 128) :
    (m, i) ∈ foldPairs ↔ foldCode m = i ∧ m ≠ i := by
  have hmem : (m, i) ∈ foldPairs ↔
      (m, i) ∈ foldPairs.filter fun p => p.1 < 128 || p.2 < 128 := by
    simp [List.mem_filter, h]
  rw [hmem, filter_foldPairs]
  simp only [List.mem_append, List.mem_map, List.mem_range, List.mem_cons, List.not_mem_nil,
    or_false, Prod.mk.injEq, foldCode]
  constructor
  · rintro (⟨k, hk, rfl, rfl⟩ | ⟨rfl, rfl⟩ | ⟨rfl, rfl⟩)
    · split_ifs <;> omega
    · decide
    · decide
  · rintro ⟨hfold, hne⟩
    split_ifs at hfold
    · exact .inl ⟨m - 65, by omega, by omega, by omega⟩
    · omega
    · omega
    · omega

theorem lt_of_isAscii (h : s.isAscii = true) (hn : s.has n = true) : n < 128 := by
  obtain ⟨⟨a, b⟩, hmem, hrange⟩ := List.any_eq_true.1 hn
  have hb := List.all_eq_true.1 h (a, b) hmem
  simp only [Bool.and_eq_true, decide_eq_true_eq] at hrange hb
  omega

/-- A folded set of ASCII characters has the variants of its members. -/
theorem has_fold_iff_of_isAscii (h : s.isAscii = true) :
    s.fold.has n = true ↔ ∃ m, s.has m = true ∧ foldCode m = foldCode n := by
  rw [has_fold_iff]
  constructor
  · rintro (hn | hn | ⟨i, hi, hpair⟩)
    · exact ⟨n, hn, rfl⟩
    · obtain ⟨m, hpair, hm | hn⟩ := mem_foldImages.1 hn
      · have hfold := ((mem_foldPairs_iff (.inl (lt_of_isAscii h hm))).1 hpair).1
        exact ⟨m, hm, by rw [← hfold, foldCode_foldCode]⟩
      · exact ⟨n, hn, rfl⟩
    · obtain ⟨m, hpair', hm | hi⟩ := mem_foldImages.1 hi
      · have hlt := lt_of_isAscii h hm
        obtain ⟨rfl, -⟩ := (mem_foldPairs_iff (.inl hlt)).1 hpair'
        exact ⟨m, hm, ((mem_foldPairs_iff (.inr (foldCode_lt hlt))).1 hpair).1.symm⟩
      · obtain ⟨rfl, -⟩ := (mem_foldPairs_iff (.inr (lt_of_isAscii h hi))).1 hpair
        exact ⟨foldCode n, hi, foldCode_foldCode n⟩
  · rintro ⟨m, hm, hsame⟩
    have hlt := lt_of_isAscii h hm
    have hlt' : foldCode n < 128 := hsame ▸ foldCode_lt hlt
    by_cases hmn : m = n
    · exact .inl (hmn ▸ hm)
    by_cases hn : n = foldCode n
    · refine .inr (.inl (mem_foldImages.2 ⟨m, (mem_foldPairs_iff (.inl hlt)).2 ⟨?_, hmn⟩, .inl hm⟩))
      rw [hsame, ← hn]
    · have hpair := (mem_foldPairs_iff (.inr hlt')).2 ⟨rfl, hn⟩
      refine .inr (.inr ⟨foldCode n, mem_foldImages.2 ?_, hpair⟩)
      by_cases hm' : m = foldCode n
      · exact ⟨n, hpair, .inr (hm' ▸ hm)⟩
      · exact ⟨m, (mem_foldPairs_iff (.inl hlt)).2 ⟨hsame, hm'⟩, .inl hm⟩

theorem lt_of_mem_foldImages (h : s.isAscii = true) {i : Nat} (hi : i ∈ foldImages s) :
    i < 128 := by
  obtain ⟨m, hpair, hm | hi⟩ := mem_foldImages.1 hi
  · have hlt := lt_of_isAscii h hm
    exact ((mem_foldPairs_iff (.inl hlt)).1 hpair).1 ▸ foldCode_lt hlt
  · exact lt_of_isAscii h hi

/-- Folding adds few ranges to a set of ASCII characters. -/
theorem length_fold_le (h : s.isAscii = true) : s.fold.length ≤ s.length + 56 := by
  have hfilter {p : Nat × Nat → Bool} (hp : ∀ x, p x = true → x.1 < 128 ∨ x.2 < 128) :
      (foldPairs.filter p).length ≤ 28 := by
    have hpairs : (foldPairs.filter fun p => p.1 < 128 || p.2 < 128).length = 28 := by
      rw [filter_foldPairs]
      rfl
    rw [← List.countP_eq_length_filter] at hpairs ⊢
    refine Nat.le_trans (List.countP_mono_left fun x _ hx => ?_) (Nat.le_of_eq hpairs)
    simpa using hp x hx
  have himages : (foldImages s).length ≤ 28 := by
    rw [foldImages, List.length_map]
    refine hfilter fun x hx => ?_
    exact (Bool.or_eq_true_iff.1 hx).imp (lt_of_isAscii h) (lt_of_isAscii h)
  have hothers : (foldPairs.filter fun p => (foldImages s).contains p.2).length ≤ 28 :=
    hfilter fun x hx => .inr (lt_of_mem_foldImages h (List.contains_iff_mem.1 hx))
  rw [fold]
  dsimp only
  split
  · exact Nat.le_add_right _ _
  · refine Nat.le_trans (length_ofRanges_le _) ?_
    simp only [List.length_append, List.length_map]
    omega

/-- The case of letters does not count in a folded set of ASCII characters. -/
theorem contains_fold_iff (h : s.isAscii = true) (c : Char) :
    s.fold.contains c = true ↔ ∃ m, s.has m = true ∧ foldCode m = (Text.foldLetter c).toNat := by
  rw [contains_eq_has, has_fold_iff_of_isAscii h, toNat_foldLetter]

end CharSet

/-! ### Digits -/

/-- The ranges of ten from each zero. -/
def digitRanges : CharSet := Text.zeroDigits.map fun first => (first, first + 9)

set_option maxRecDepth 4000 in
/-- The table of categories has the digits in ranges that touch nowhere. -/
theorem digits_eq : digits = CharSet.ofRanges (CharSet.ofRanges (CharSet.join digitRanges)) := by
  rw [digits, ofCategories]
  simp only [categoryTexts, List.filter_cons, List.contains_cons, List.contains_nil,
    Bool.or_false, String.reduceBEq, Bool.false_eq_true, if_false, if_true, List.filter_nil,
    List.flatMap_cons, List.flatMap_nil, List.append_nil]
  rw [CharSet.ofText, String.toList_ofList]
  congr 2
  decide +kernel

theorem has_digits (n : Nat) : digits.has n = digitRanges.has n := by
  have hsorted : digitRanges.Pairwise fun a b => a.1 ≤ b.1 := by decide +kernel
  rw [digits_eq, CharSet.has_ofRanges, CharSet.has_ofRanges, CharSet.has_join hsorted]

theorem length_digits_le : digits.length ≤ 76 := by
  rw [digits_eq]
  exact Nat.le_trans (CharSet.length_ofRanges_le _)
    (Nat.le_trans (CharSet.length_ofRanges_le _) (CharSet.length_join_le digitRanges))

theorem contains_digits (c : Char) : digits.contains c = Text.isDecimalDigit c := by
  rw [CharSet.contains_eq_has, has_digits, digitRanges, CharSet.has, List.any_map,
    Text.isDecimalDigit]
  congr 1
  funext first
  rw [Function.comp, Bool.eq_iff_iff]
  simp only [Bool.and_eq_true, decide_eq_true_eq]
  omega

end ReleaseGap.Pattern
