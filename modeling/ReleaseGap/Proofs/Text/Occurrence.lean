import Mathlib.Data.List.Infix
import ReleaseGap.Text.Cut

/-!
# Occurrences of words

A word occurs in a text just when it is an infix of it.  A word that a separator is no letter of
occurs within one of the parts that the separator divides, so putting texts together with separators
neither makes an occurrence of the word nor hides one.
-/
namespace ReleaseGap.Text

theorem occursIn_iff {word s : List Char} : occursIn word s = true ↔ word <:+: s := by
  induction s with
  | nil => simp [occursIn]
  | cons c s ih =>
    rw [occursIn, Bool.or_eq_true, ih, List.isPrefixOf_iff_prefix, List.infix_cons_iff]

theorem contains_iff {s word : String} :
    contains s word = true ↔ word.toList <:+: s.toList := occursIn_iff

variable {word a b : List Char} {sep : Char}

/-- A word that starts a text ends before the first character that it has not. -/
theorem prefix_append_cons (hsep : sep ∉ word) (h : word <+: a ++ sep :: b) : word <+: a := by
  have hpart : a ++ [sep] <+: a ++ sep :: b := ⟨b, by simp⟩
  rcases List.prefix_or_prefix_of_prefix h hpart with hword | hword
  · rcases List.prefix_concat_iff.1 hword with rfl | hword
    · exact absurd (List.mem_append_right a (List.mem_singleton_self sep)) hsep
    · exact hword
  · have hmem : sep ∈ word := hword.subset (List.mem_append_right a (List.mem_singleton_self sep))
    exact absurd hmem hsep

theorem infix_append_cons_iff (hsep : sep ∉ word) :
    word <:+: a ++ sep :: b ↔ word <:+: a ∨ word <:+: b := by
  constructor
  · intro h
    induction a with
    | nil =>
      rcases List.infix_cons_iff.1 h with hfront | hrest
      · exact .inl (prefix_append_cons hsep hfront).isInfix
      · exact .inr hrest
    | cons c a ih =>
      rcases List.infix_cons_iff.1 h with hfront | hrest
      · exact .inl (prefix_append_cons (a := c :: a) hsep hfront).isInfix
      · rcases ih hrest with ha | hb
        · exact .inl (List.infix_cons ha)
        · exact .inr hb
  · rintro (h | h)
    · exact h.trans (List.prefix_append a (sep :: b)).isInfix
    · exact h.trans ⟨a ++ [sep], [], by simp⟩

theorem infix_cons_iff (hsep : sep ∉ word) (hword : word ≠ []) :
    word <:+: sep :: b ↔ word <:+: b := by
  have h := infix_append_cons_iff (a := []) (b := b) hsep
  rwa [List.nil_append, List.infix_nil, or_iff_right hword] at h

/-- Of texts with separators between them a word occurs in one. -/
theorem exists_infix_of_infix_intercalate (hsep : sep ∉ word) (hword : word ≠ [])
    {texts : List (List Char)} (h : word <:+: [sep].intercalate texts) :
    ∃ text ∈ texts, word <:+: text := by
  induction texts with
  | nil => exact absurd (List.infix_nil.1 h) hword
  | cons text texts ih =>
    cases texts with
    | nil =>
      rw [List.intercalate_singleton] at h
      exact ⟨text, List.mem_singleton_self text, h⟩
    | cons next texts =>
      rw [List.intercalate_cons_cons, List.append_assoc, List.singleton_append,
        infix_append_cons_iff hsep] at h
      rcases h with h | h
      · exact ⟨text, List.mem_cons_self, h⟩
      · obtain ⟨other, hmem, hother⟩ := ih h
        exact ⟨other, List.mem_cons_of_mem text hmem, hother⟩

end ReleaseGap.Text
