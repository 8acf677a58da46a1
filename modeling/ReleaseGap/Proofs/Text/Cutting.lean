import Mathlib.Data.List.DropRight
import Mathlib.Tactic.Common
import ReleaseGap.Text.Cut

/-!
# Texts put together and cut again

A text made of parts is cut into these parts again where they have no separator themselves, and
trimming leaves a text alone that has no blank at its ends.
-/
namespace ReleaseGap.Text

variable {sep : Char} {s : List Char}

/-- There is no blank at either end. -/
def IsTrimmed (s : List Char) : Prop :=
  (∀ c ∈ s.head?, isBlank c = false) ∧ ∀ c ∈ s.getLast?, isBlank c = false

instance (s : List Char) : Decidable (IsTrimmed s) :=
  decidable_of_iff (s.head?.all (!isBlank ·) = true ∧ s.getLast?.all (!isBlank ·) = true)
    (by simp [IsTrimmed, Option.all_eq_true])

theorem trimStart_eq_self (h : ∀ c ∈ s.head?, isBlank c = false) : trimStart s = s := by
  cases s with
  | nil => rfl
  | cons c s => exact List.dropWhile_cons_of_neg (by simp [h c rfl])

theorem trimEnd_eq_self (h : ∀ c ∈ s.getLast?, isBlank c = false) : trimEnd s = s := by
  have hreverse : trimStart s.reverse = s.reverse := trimStart_eq_self fun c hc => by
    rw [List.head?_reverse] at hc
    exact h c hc
  rw [trimEnd, dropEndWhile, ← trimStart, hreverse, List.reverse_reverse]

theorem trim_eq_self (h : IsTrimmed s) : trim s = s := by
  rw [trim, trimStart_eq_self h.1, trimEnd_eq_self h.2]

theorem trim_append_of_blank {e : List Char} (he : ∀ c ∈ e, isBlank c = true) :
    trim (s ++ e) = trim s := by
  have hend : ∀ t, trimEnd (t ++ e) = trimEnd t := by
    intro t
    rw [trimEnd, dropEndWhile, List.reverse_append, List.dropWhile_append_of_pos]
    · rfl
    · simpa using he
  rw [trim, trim, trimStart, trimStart, List.dropWhile_append]
  split
  · rename_i hs
    rw [List.isEmpty_iff.1 hs, ← hend [], List.nil_append, ← List.append_nil e,
      List.dropWhile_append_of_pos he, List.append_nil]
    exact (hend []).symm
  · exact hend _

theorem trim_append_of_blank_front {e : List Char} (he : ∀ c ∈ e, isBlank c = true) :
    trim (e ++ s) = trim s := by
  rw [trim, trim, trimStart, trimStart, List.dropWhile_append_of_pos he]

/-- What is left of a text is what stands behind the blanks at its front. -/
theorem trimStart_eq_iff {t : List Char} :
    trimStart s = t ↔ (∀ c ∈ t.head?, isBlank c = false) ∧
      ∃ front, s = front ++ t ∧ ∀ c ∈ front, isBlank c = true := by
  constructor
  · rintro rfl
    refine ⟨fun c hc => ?_, s.takeWhile isBlank, List.takeWhile_append_dropWhile.symm,
      fun c hc => List.mem_takeWhile_imp hc⟩
    have hhead := List.head?_dropWhile_not isBlank s
    rw [← trimStart, Option.mem_def.1 hc] at hhead
    exact hhead
  · rintro ⟨ht, front, rfl, hfront⟩
    rw [trimStart, List.dropWhile_append_of_pos hfront]
    exact trimStart_eq_self ht

/-- What is left of a text is what stands in front of the blanks at its end. -/
theorem trimEnd_eq_iff {t : List Char} :
    trimEnd s = t ↔ (∀ c ∈ t.getLast?, isBlank c = false) ∧
      ∃ back, s = t ++ back ∧ ∀ c ∈ back, isBlank c = true := by
  have hreverse : trimEnd s = t ↔ trimStart s.reverse = t.reverse := List.reverse_eq_iff
  rw [hreverse, trimStart_eq_iff, List.head?_reverse]
  refine and_congr_right fun _ => ⟨?_, ?_⟩
  · rintro ⟨front, hs, hfront⟩
    exact ⟨front.reverse, by simpa using congrArg List.reverse hs, by simpa using hfront⟩
  · rintro ⟨back, rfl, hback⟩
    exact ⟨back.reverse, by simp, by simpa using hback⟩

/-- A text is trimmed to the part between blanks that has none at its own ends. -/
theorem trim_eq_iff {t : List Char} :
    trim s = t ↔ IsTrimmed t ∧ ∃ front back, s = front ++ t ++ back ∧
      (∀ c ∈ front, isBlank c = true) ∧ ∀ c ∈ back, isBlank c = true := by
  constructor
  · intro h
    obtain ⟨hlast, back, hback, hblank⟩ := trimEnd_eq_iff.1 h
    obtain ⟨hhead, front, hfront, hblank'⟩ := trimStart_eq_iff.1 hback
    refine ⟨⟨fun c hc => hhead c ?_, hlast⟩, front, back, by simpa using hfront, hblank', hblank⟩
    rw [List.head?_append, Option.mem_def.1 hc]
    rfl
  · rintro ⟨ht, front, back, rfl, hfront, hback⟩
    rw [trim_append_of_blank hback, trim_append_of_blank_front hfront, trim_eq_self ht]

/-- A text between others has no part in the blanks at the ends. -/
theorem isTrimmed_append_cons {a b : List Char} (hsep : isBlank sep = false) (ha : IsTrimmed a)
    (hb : IsTrimmed b) : IsTrimmed (a ++ sep :: b) := by
  constructor
  · cases a with
    | nil => simpa using hsep
    | cons c a => simpa using ha.1
  · cases b using List.reverseRecOn with
    | nil => simpa using hsep
    | append_singleton b c =>
      rw [← List.cons_append, ← List.append_assoc, List.getLast?_concat]
      simpa using hb.2

theorem splitFirst?_append_cons {a : List Char} (ha : sep ∉ a) (b : List Char) :
    splitFirst? sep (a ++ sep :: b) = some (a, b) := by
  induction a with
  | nil => simp [splitFirst?]
  | cons c a ih =>
    obtain ⟨hc, ha⟩ := not_or.1 (mt List.mem_cons.2 ha)
    simp [splitFirst?, Ne.symm hc, ih ha]

/-- A text is cut at its first separator, the one that stands behind no other. -/
theorem splitFirst?_eq_some_iff {a b : List Char} :
    splitFirst? sep s = some (a, b) ↔ s = a ++ sep :: b ∧ sep ∉ a := by
  constructor
  · intro h
    refine ⟨append_of_splitFirst? h, ?_⟩
    induction s generalizing a with
    | nil => cases h
    | cons c s ih =>
      by_cases hc : c = sep
      · simp only [splitFirst?, hc, if_true, Option.some.injEq, Prod.mk.injEq] at h
        simp [← h.1]
      · simp only [splitFirst?, hc, if_false, Option.map_eq_some_iff] at h
        obtain ⟨⟨front, back⟩, hs, heq⟩ := h
        obtain ⟨rfl, rfl⟩ := Prod.mk.inj heq
        simp [ih hs, Ne.symm hc]
  · rintro ⟨rfl, ha⟩
    exact splitFirst?_append_cons ha b

theorem splitFirst?_eq_none_iff : splitFirst? sep s = none ↔ sep ∉ s := by
  induction s with
  | nil => simp [splitFirst?]
  | cons c s ih =>
    by_cases hc : c = sep
    · simp [splitFirst?, hc]
    · simp [splitFirst?, hc, ih, Ne.symm hc]

theorem fields_append_cons {a : List Char} (ha : sep ∉ a) (b : List Char) :
    fields sep (a ++ sep :: b) = a :: fields sep b := by
  induction a with
  | nil =>
    cases hb : fields sep b with
    | nil => cases b <;> grind [fields]
    | cons f fs => simp [fields, hb]
  | cons c a ih =>
    obtain ⟨hc, ha⟩ := not_or.1 (mt List.mem_cons.2 ha)
    simp [fields, ih ha, Ne.symm hc]

theorem fields_of_notMem (h : sep ∉ s) : fields sep s = [s] := by
  induction s with
  | nil => rfl
  | cons c s ih =>
    obtain ⟨hc, hs⟩ := not_or.1 (mt List.mem_cons.2 h)
    simp [fields, ih hs, Ne.symm hc]

/-- The first field is what stands in front of the first separator. -/
theorem head?_fields (sep : Char) (s : List Char) :
    (fields sep s).head? = some (s.takeWhile (· ≠ sep)) := by
  induction s with
  | nil => rfl
  | cons c s ih =>
    obtain ⟨fs, hfs⟩ := List.head?_eq_some_iff.1 ih
    rw [fields, hfs]
    by_cases hc : c = sep <;> simp [hc]

theorem fields_append (a b : List Char) :
    fields sep (a ++ sep :: b) = fields sep a ++ fields sep b := by
  induction a with
  | nil => exact fields_append_cons List.not_mem_nil b
  | cons c a ih =>
    obtain ⟨fs, hfs⟩ := List.head?_eq_some_iff.1 (head?_fields sep a)
    by_cases hc : c = sep <;> simp [fields, ih, hfs, hc]

/-- A text without line feed is one line. -/
theorem lines_of_notMem (hlf : '\n' ∉ s) (hne : s ≠ []) : lines s = [s] := by
  have hfull : ∀ s : List Char, '\n' ∉ s → s ≠ [] → fullLines s = [s] := by
    intro s
    induction s with
    | nil => exact fun _ hne => absurd rfl hne
    | cons c s ih =>
      intro hlf _
      obtain ⟨hc, hs⟩ := not_or.1 (mt List.mem_cons.2 hlf)
      cases s with
      | nil => simp [fullLines, Ne.symm hc]
      | cons d s => rw [fullLines, if_neg (Ne.symm hc), ih hs (List.cons_ne_nil _ _)]
  have hend : dropLineEnd s = s := by
    have hreverse : '\n' ∉ s.reverse := mt List.mem_reverse.1 hlf
    rw [dropLineEnd]
    split <;> simp_all
  rw [lines, hfull s hlf hne, List.map_singleton, hend]

/-! ### Runs -/

section Runs

variable {p : Char → Bool} {run rest : List Char}

/-- A run of characters ends where the first other character stands. -/
theorem dropWhile_run (hrun : ∀ c ∈ run, p c = true) (hrest : rest.head?.any p = false) :
    (run ++ rest).dropWhile p = rest := by
  rw [List.dropWhile_append_of_pos hrun]
  cases rest with
  | nil => rfl
  | cons c rest => exact List.dropWhile_cons_of_neg (by simpa using hrest)

theorem takeWhile_run (hrun : ∀ c ∈ run, p c = true) (hrest : rest.head?.any p = false) :
    (run ++ rest).takeWhile p = run := by
  rw [List.takeWhile_append_of_pos hrun]
  cases rest with
  | nil => rw [List.takeWhile_nil, List.append_nil]
  | cons c rest => rw [List.takeWhile_cons_of_neg (by simpa using hrest), List.append_nil]

theorem any_head?_run (hne : run ≠ []) (hrun : ∀ c ∈ run, p c = true) :
    (run ++ rest).head?.any p = true := by
  cases run with
  | nil => exact absurd rfl hne
  | cons c run => exact hrun c List.mem_cons_self

theorem any_head?_dropWhile (p : Char → Bool) (s : List Char) :
    (s.dropWhile p).head?.any p = false := by
  have hhead := List.head?_dropWhile_not p s
  cases hs : (s.dropWhile p).head? with
  | none => rfl
  | some c =>
    rw [hs] at hhead
    simpa using hhead

theorem takeWhile_ne_nil {s : List Char} (h : s.head?.any p = true) : s.takeWhile p ≠ [] := by
  cases s with
  | nil => cases h
  | cons c s =>
    have hc : p c = true := h
    rw [List.takeWhile_cons_of_pos hc]
    exact List.cons_ne_nil _ _

end Runs

end ReleaseGap.Text
