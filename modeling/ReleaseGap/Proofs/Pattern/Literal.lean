import ReleaseGap.Proofs.Pattern.Preference

/-!
# Texts that patterns find

The characters of a text, one after the other, find nothing but this text, and a loop over
characters in front of the end finds them all or nothing.
-/
namespace ReleaseGap.Pattern

theorem contains_single {c d : Char} : (CharSet.single c).contains d = true ↔ d = c := by
  simp only [CharSet.single, CharSet.contains, List.any_cons, List.any_nil, Bool.or_false,
    Bool.and_eq_true, decide_eq_true_eq]
  exact ⟨fun h => Char.toNat_inj.1 (Nat.le_antisymm h.2 h.1),
    fun h => h ▸ ⟨Nat.le_refl _, Nat.le_refl _⟩⟩

/-- The place behind some text. -/
def Place.behind (p : Place) (text rest : List Char) : Place :=
  ⟨text.getLast?.or p.before, rest, p.offset + text.length⟩

theorem Place.behind_past (p : Place) (c : Char) (more rest : List Char) (text : List Char) :
    (p.past c more).behind text rest = p.behind (c :: text) rest := by
  simp only [behind, past, List.length_cons, Place.mk.injEq, true_and]
  constructor
  · cases htext : text.getLast? <;> simp [List.getLast?_cons, htext]
  · omega

namespace Regex

theorem before_cats (rs : List Regex) (rest : Rest) :
    (cats rs).before rest = rs.foldr (fun r rest => r.before rest) rest := by
  fun_induction cats rs with
  | case1 => rfl
  | case2 r => rfl
  | case3 r rs hrs ih => rw [before, ih, List.foldr_cons]

theorem isOnlyEmpty_cats (rs : List Regex) : (cats rs).isOnlyEmpty = rs.all isOnlyEmpty := by
  fun_induction cats rs with
  | case1 => rfl
  | case2 r => simp
  | case3 r rest hrest ih => rw [isOnlyEmpty, ih, List.all_cons]

theorem loopsAdvance_cats (rs : List Regex) : (cats rs).loopsAdvance = rs.all loopsAdvance := by
  fun_induction cats rs with
  | case1 => rfl
  | case2 r => simp
  | case3 r rest hrest ih => rw [loopsAdvance, ih, List.all_cons]

theorem before_optional (r : Regex) (rest : Rest) (ends : Ends) (place : Place) :
    (repeated true 0 (some 1) r).before rest ends place =
      (r.before rest ends place).or (rest ends place) := rfl

section Chars

variable {set : CharSet} {rest : Rest} {ends : Ends} {place : Place}

theorem before_chars_of_nil (h : place.after = []) :
    (chars set).before rest ends place = none := by
  simp [before, h]

theorem before_chars_of_cons {c : Char} {more : List Char} (h : place.after = c :: more) :
    (chars set).before rest ends place =
      if set.contains c then rest ends (place.past c more) else none := by
  simp [before, h]

/-- The characters of a text find the text. -/
theorem before_text (text : List Char) :
    (text.map fun c => chars (.single c)).foldr (fun r rest => r.before rest) rest ends place =
      (Text.dropLead? text place.after).bind fun r => rest ends (place.behind text r) := by
  induction text generalizing place with
  | nil => rfl
  | cons c text ih =>
    rw [List.map_cons, List.foldr_cons]
    cases hafter : place.after with
    | nil => rw [before_chars_of_nil hafter]; rfl
    | cons d more =>
      rw [before_chars_of_cons hafter, Text.dropLead?, List.isPrefixOf]
      by_cases hd : d = c
      · subst hd
        rw [if_pos (contains_single.2 rfl), ih]
        simp only [beq_self_eq_true, Bool.true_and, Place.behind_past]
        rfl
      · rw [if_neg (mt contains_single.1 hd), beq_false_of_ne (Ne.symm hd)]
        rfl

/-- A greedy loop over characters goes on up to the end of the text if nothing else can follow. -/
theorem loop_chars (hrest : ∀ ends place, place.after ≠ [] → rest ends place = none) :
    loop true (chars set).before rest ends place =
      if place.after.all set.contains then rest ends (place.behind place.after []) else none := by
  obtain ⟨left, after, offset⟩ := place
  induction after generalizing left offset with
  | nil =>
    rw [loop, before_chars_of_nil rfl]
    rfl
  | cons c more ih =>
    rw [loop, before_chars_of_cons rfl, hrest _ _ (List.cons_ne_nil c more)]
    by_cases hc : set.contains c = true
    · have hlt : more.length < (c :: more).length := Nat.lt_succ_self _
      rw [if_pos hc, Place.past, if_pos hlt, choose, if_pos rfl, Option.or_none, ih, List.all_cons,
        hc, Bool.true_and, ← Place.behind_past]
      rfl
    · simp [hc, choose]

/-- One or more characters up to the end of the text. -/
theorem before_some_chars (hrest : ∀ ends place, place.after ≠ [] → rest ends place = none) :
    (repeated true 1 none (chars set)).before rest ends place =
      if place.after ≠ [] ∧ place.after.all set.contains then
        rest ends (place.behind place.after [])
      else none := by
  have honce : (repeated true 1 none (chars set)).before rest ends place =
      (chars set).before (loop true (chars set).before rest) ends place := rfl
  rw [honce]
  cases hafter : place.after with
  | nil => simp [before_chars_of_nil hafter]
  | cons c more =>
    have hmore : (place.past c more).after = more := rfl
    rw [before_chars_of_cons hafter, loop_chars hrest, hmore, Place.behind_past]
    by_cases hc : set.contains c = true <;> simp [hc]

end Chars

end Regex

end ReleaseGap.Pattern
