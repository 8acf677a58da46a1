import Mathlib.Data.List.Induction
import ReleaseGap.Overrides.Table
import ReleaseGap.Proofs.Text.Cutting

/-!
# The entries of a table

A table says what its lines say, each read by itself.  A key is in the table if some line in front
of the end line is written for it, and what stands under it is what the last such line says.  So
lines for different keys may change places.
-/
namespace ReleaseGap.Overrides

open Text (isBlank IsTrimmed)

/-- How an entry is written: as a bare key, or as a key and a text with a bar between them.  Of
several bars the first one ends the key. -/
inductive Writes : List Char → String → Entry → Prop
  | bare {key : List Char} (hbar : '|' ∉ key) : Writes key (String.ofList key) .marker
  | text {key gap gap' value : List Char} (hbar : '|' ∉ key)
      (hend : ∀ c ∈ key.getLast?, isBlank c = false) (hgap : ∀ c ∈ gap, isBlank c = true)
      (hgap' : ∀ c ∈ gap', isBlank c = true) (hstart : ∀ c ∈ value.head?, isBlank c = false) :
      Writes (key ++ gap ++ '|' :: (gap' ++ value)) (String.ofList key)
        (.text (String.ofList value))

/-- A line gives an entry that is written in it between blanks, in front of a comment if there is
one. -/
def Gives (line : List Char) (key : String) (entry : Entry) : Prop :=
  ∃ front content back comment, line = front ++ content ++ back ++ comment ∧
    (∀ c ∈ front, isBlank c = true) ∧ (∀ c ∈ back, isBlank c = true) ∧
    (∀ c ∈ comment.head?, c = '#') ∧ '#' ∉ content ∧ content ≠ [] ∧ IsTrimmed content ∧
    Writes content key entry

/-! ### One line -/

section Line

variable {line content : List Char} {key : String} {entry : Entry}

theorem notMem_of_blank {blanks : List Char} (h : ∀ c ∈ blanks, isBlank c = true) {c : Char}
    (hc : isBlank c = false) : c ∉ blanks := by
  intro hmem
  rw [h c hmem] at hc
  cases hc

theorem lineContent_eq_iff : lineContent line = content ↔
    '#' ∉ content ∧ IsTrimmed content ∧ ∃ front back comment,
      line = front ++ content ++ back ++ comment ∧ (∀ c ∈ front, isBlank c = true) ∧
      (∀ c ∈ back, isBlank c = true) ∧ ∀ c ∈ comment.head?, c = '#' := by
  constructor
  · intro h
    obtain ⟨htrimmed, front, back, hbody, hfront, hback⟩ := Text.trim_eq_iff.1 h
    refine ⟨fun hmem => ?_, htrimmed, front, back, line.dropWhile (· ≠ '#'), ?_, hfront, hback, ?_⟩
    · have hkept : '#' ∈ line.takeWhile (· ≠ '#') := by
        rw [hbody]
        simp [hmem]
      simpa using List.mem_takeWhile_imp hkept
    · rw [← hbody, List.takeWhile_append_dropWhile]
    · have hhead := List.head?_dropWhile_not (· ≠ '#') line
      intro c hc
      rw [Option.mem_def.1 hc] at hhead
      simpa using hhead
  · rintro ⟨hcontent, htrimmed, front, back, comment, rfl, hfront, hback, hcomment⟩
    have hbody : '#' ∉ front ++ content ++ back := by
      have hhash : isBlank '#' = false := by decide
      simp [hcontent, notMem_of_blank hfront hhash, notMem_of_blank hback hhash]
    have hkept : (front ++ content ++ back ++ comment).takeWhile (· ≠ '#')
        = front ++ content ++ back := by
      refine Text.takeWhile_run (fun c hc => ?_) ?_
      · simpa using ne_of_mem_of_not_mem hc hbody
      · cases comment with
        | nil => rfl
        | cons c comment => simp [hcomment c rfl]
    rw [lineContent, hkept]
    exact Text.trim_eq_iff.2 ⟨htrimmed, front, back, rfl, hfront, hback⟩

/-- What stands in a line is cut at its first bar. -/
theorem writes_iff : Writes content key entry ↔
    match Text.splitFirst? '|' content with
    | some (front, back) => key = String.ofList (Text.trimEnd front) ∧
        entry = .text (String.ofList (Text.trimStart back))
    | none => key = String.ofList content ∧ entry = .marker := by
  constructor
  · intro h
    cases h with
    | bare hbar =>
      rw [Text.splitFirst?_eq_none_iff.2 hbar]
      exact ⟨rfl, rfl⟩
    | @text key gap gap' value hbar hend hgap hgap' hstart =>
      have hfront : '|' ∉ key ++ gap := by
        simp [hbar, notMem_of_blank hgap (by decide : isBlank '|' = false)]
      have hkey : Text.trimEnd (key ++ gap) = key := Text.trimEnd_eq_iff.2 ⟨hend, gap, rfl, hgap⟩
      have hvalue : Text.trimStart (gap' ++ value) = value :=
        Text.trimStart_eq_iff.2 ⟨hstart, gap', rfl, hgap'⟩
      simp only [Text.splitFirst?_append_cons hfront, hkey, hvalue, and_self]
  · cases hsplit : Text.splitFirst? '|' content with
    | none =>
      rintro ⟨rfl, rfl⟩
      exact .bare (Text.splitFirst?_eq_none_iff.1 hsplit)
    | some cut =>
      obtain ⟨front, back⟩ := cut
      rintro ⟨rfl, rfl⟩
      obtain ⟨rfl, hbar⟩ := Text.splitFirst?_eq_some_iff.1 hsplit
      obtain ⟨hend, gap, hfront, hgap⟩ := Text.trimEnd_eq_iff.1 (Eq.refl (Text.trimEnd front))
      obtain ⟨hstart, gap', hback, hgap'⟩ :=
        Text.trimStart_eq_iff.1 (Eq.refl (Text.trimStart back))
      have hkey : '|' ∉ Text.trimEnd front := by
        intro hmem
        rw [hfront] at hbar
        exact hbar (List.mem_append_left gap hmem)
      have hwritten := Writes.text hkey hend hgap hgap' hstart
      rwa [← hfront, ← hback] at hwritten

/-- A line is read as the entry that it gives. -/
theorem entryOfLine?_eq_some_iff :
    entryOfLine? line = some (key, entry) ↔ Gives line key entry := by
  have hgives : Gives line key entry ↔
      lineContent line ≠ [] ∧ Writes (lineContent line) key entry := by
    constructor
    · rintro ⟨front, content, back, comment, hline, hfront, hback, hcomment, hhash, hne, htrimmed,
        hwrites⟩
      have hcontent : lineContent line = content :=
        lineContent_eq_iff.2
          ⟨hhash, htrimmed, front, back, comment, hline, hfront, hback, hcomment⟩
      rw [hcontent]
      exact ⟨hne, hwrites⟩
    · rintro ⟨hne, hwrites⟩
      obtain ⟨hhash, htrimmed, front, back, comment, hline, hfront, hback, hcomment⟩ :=
        lineContent_eq_iff.1 (Eq.refl (lineContent line))
      exact ⟨front, _, back, comment, hline, hfront, hback, hcomment, hhash, hne, htrimmed,
        hwrites⟩
  rw [hgives, writes_iff, entryOfLine?]
  by_cases hempty : lineContent line = []
  · simp [hempty]
  · simp only [List.isEmpty_iff, hempty, if_false, ne_eq, not_false_eq_true, true_and]
    cases Text.splitFirst? '|' (lineContent line) with
    | none => simp only [Option.some.injEq, Prod.mk.injEq, eq_comm (a := key), eq_comm (a := entry)]
    | some cut =>
      simp only [Option.some.injEq, Prod.mk.injEq, eq_comm (a := key), eq_comm (a := entry)]

/-- What a line gives has no part in the comment and the blanks of the line, and its key none in the
text behind the bar. -/
theorem Gives.isTrimmed (h : Gives line key entry) :
    (IsTrimmed key.toList ∧ '#' ∉ key.toList ∧ '|' ∉ key.toList) ∧
    IsTrimmed entry.content.toList ∧ '#' ∉ entry.content.toList := by
  obtain ⟨-, content, -, -, -, -, -, -, hhash, -, ⟨hhead, hlast⟩, hwrites⟩ := h
  cases hwrites with
  | bare hbar =>
    rw [String.toList_ofList]
    exact ⟨⟨⟨hhead, hlast⟩, hhash, hbar⟩, by decide, by decide⟩
  | @text key gap gap' value hbar hend hgap hgap' hstart =>
    have hhash' : '#' ∉ key ∧ '#' ∉ value := by
      simp only [List.mem_append, List.mem_cons, not_or] at hhash
      exact ⟨hhash.1.1, hhash.2.2.2⟩
    rw [String.toList_ofList, Entry.content, String.toList_ofList]
    refine ⟨⟨⟨fun c hc => hhead c ?_, hend⟩, hhash'.1, hbar⟩, ⟨hstart, fun c hc => hlast c ?_⟩,
      hhash'.2⟩
    · rw [List.append_assoc, List.head?_append, Option.mem_def.1 hc]
      rfl
    · rw [List.getLast?_append, List.getLast?_cons, List.getLast?_append, Option.mem_def.1 hc]
      rfl

end Line

/-! ### All lines -/

namespace Table

variable {t : Table} {line : List Char} {ls : List (List Char)} {key : String} {entry : Entry}

theorem addLine_of_gives (h : Gives line key entry) : t.addLine line = t.insert key entry := by
  rw [addLine, entryOfLine?_eq_some_iff.2 h]

theorem get?_addLine_of_not_gives (h : ∀ e, ¬ Gives line key e) :
    (t.addLine line).get? key = t.get? key := by
  rw [addLine]
  cases hentry : entryOfLine? line with
  | none => rfl
  | some given =>
    obtain ⟨other, e⟩ := given
    have hgives := entryOfLine?_eq_some_iff.1 hentry
    have hne : other ≠ key := by
      rintro rfl
      exact h e hgives
    simp only [get?_insert, if_neg hne]

theorem get?_foldl_addLine_of_not_gives (h : ∀ l ∈ ls, ∀ e, ¬ Gives l key e) :
    (ls.foldl addLine t).get? key = t.get? key := by
  induction ls generalizing t with
  | nil => rfl
  | cons l ls ih =>
    obtain ⟨hl, hls⟩ := List.forall_mem_cons.1 h
    rw [List.foldl_cons, ih hls, get?_addLine_of_not_gives hl]

/-- Under a key stands what the last line for the key gives. -/
theorem get?_ofLines_eq_some_iff : (ofLines ls).get? key = some entry ↔
    ∃ before line after, ls = before ++ line :: after ∧ Gives line key entry ∧
      ∀ l ∈ after, ∀ e, ¬ Gives l key e := by
  constructor
  · intro h
    induction ls using List.reverseRecOn with
    | nil => cases h
    | append_singleton ls l ih =>
      rw [ofLines, List.foldl_append, List.foldl_cons, List.foldl_nil, ← ofLines] at h
      by_cases hl : ∃ e, Gives l key e
      · obtain ⟨e, he⟩ := hl
        rw [addLine_of_gives he, get?_insert, if_pos rfl] at h
        cases h
        exact ⟨ls, l, [], rfl, he, fun l hl => absurd hl List.not_mem_nil⟩
      · push Not at hl
        rw [get?_addLine_of_not_gives hl] at h
        obtain ⟨before, line, after, rfl, hline, hafter⟩ := ih h
        refine ⟨before, line, after ++ [l], by simp, hline, fun l' hl' => ?_⟩
        rcases List.mem_append.1 hl' with hl' | hl'
        · exact hafter l' hl'
        · exact List.mem_singleton.1 hl' ▸ hl
  · rintro ⟨before, line, after, rfl, hline, hafter⟩
    rw [ofLines, List.foldl_append, List.foldl_cons, get?_foldl_addLine_of_not_gives hafter,
      addLine_of_gives hline, get?_insert, if_pos rfl]

theorem contains_addLine_iff : (t.addLine line).contains key = true ↔
    (∃ e, Gives line key e) ∨ t.contains key = true := by
  by_cases h : ∃ e, Gives line key e
  · obtain ⟨e, he⟩ := h
    refine iff_of_true ?_ (.inl ⟨e, he⟩)
    rw [addLine_of_gives he, contains, get?_insert, if_pos rfl]
    rfl
  · simp only [h, false_or]
    push Not at h
    rw [contains, contains, get?_addLine_of_not_gives h]

theorem contains_foldl_addLine_iff : (ls.foldl addLine t).contains key = true ↔
    t.contains key = true ∨ ∃ line ∈ ls, ∃ e, Gives line key e := by
  induction ls generalizing t with
  | nil => simp
  | cons l ls ih =>
    rw [List.foldl_cons, ih, contains_addLine_iff]
    simp only [List.mem_cons, exists_eq_or_imp]
    tauto

/-- Lines for different keys may change places. -/
theorem addLine_comm {a b : List Char} {k k' : String} {e e' : Entry} (ha : Gives a k e)
    (hb : Gives b k' e') (hne : k ≠ k') : (t.addLine a).addLine b = (t.addLine b).addLine a := by
  ext key : 1
  simp only [addLine_of_gives ha, addLine_of_gives hb, get?_insert]
  by_cases hk : k = key <;> by_cases hk' : k' = key <;> simp_all

theorem endsTable_iff : endsTable line = true ↔ "----".toList <+: line :=
  List.isPrefixOf_iff_prefix

/-- The lines in front of the first one that ends a table. -/
def linesOf (text : String) : List (List Char) :=
  (Text.lines text.toList).takeWhile (!endsTable ·)

theorem exists_lines_eq_linesOf_append (text : String) :
    ∃ rest, Text.lines text.toList = linesOf text ++ rest ∧
      (∀ line ∈ linesOf text, ¬ "----".toList <+: line) ∧
      ∀ line ∈ rest.head?, "----".toList <+: line := by
  refine ⟨(Text.lines text.toList).dropWhile (!endsTable ·),
    List.takeWhile_append_dropWhile.symm, fun line hline => ?_, fun line hline => ?_⟩
  · rw [← endsTable_iff]
    simpa using List.mem_takeWhile_imp hline
  · rw [← endsTable_iff]
    have hhead := List.head?_dropWhile_not (!endsTable ·) (Text.lines text.toList)
    rw [Option.mem_def.1 hline] at hhead
    simpa using hhead

/-- A table is what its lines say, one by one: a key is in it if a line in front of the first end
line gives an entry for it, and the last such line counts.  No key and no text has a hash in it or a
blank at its ends, no key has a bar, and neighbouring lines for different keys may change places. -/
theorem ofText_line_by_line (text : String) :
    (∃ rest, Text.lines text.toList = linesOf text ++ rest ∧
      (∀ line ∈ linesOf text, ¬ "----".toList <+: line) ∧
      ∀ line ∈ rest.head?, "----".toList <+: line) ∧
    (∀ key, (ofText text).contains key = true ↔
      ∃ line ∈ linesOf text, ∃ entry, Gives line key entry) ∧
    (∀ key entry, (ofText text).get? key = some entry ↔
      ∃ before line after, linesOf text = before ++ line :: after ∧ Gives line key entry ∧
        ∀ other ∈ after, ∀ e, ¬ Gives other key e) ∧
    (∀ key entry, (key, entry) ∈ (ofText text).entries →
      (IsTrimmed key.toList ∧ '#' ∉ key.toList ∧ '|' ∉ key.toList) ∧
        IsTrimmed entry.content.toList ∧ '#' ∉ entry.content.toList) ∧
    ∀ (swapped : String) before line line' after key key' entry entry',
      linesOf text = before ++ line :: line' :: after →
      linesOf swapped = before ++ line' :: line :: after →
      Gives line key entry → Gives line' key' entry' → key ≠ key' →
      ofText swapped = ofText text := by
  have htext : ∀ text, ofText text = ofLines (linesOf text) := fun _ => rfl
  refine ⟨exists_lines_eq_linesOf_append text, fun key => ?_, fun key entry => ?_,
    fun key entry h => ?_, ?swap⟩
  · rw [htext, ofLines, contains_foldl_addLine_iff]
    exact or_iff_right Bool.false_ne_true
  · rw [htext, get?_ofLines_eq_some_iff]
  · have hget : (ofText text).get? key = some entry :=
      Keyed.find?_eq_some_of_mem (ofText text).isOrdered h
    rw [htext, get?_ofLines_eq_some_iff] at hget
    obtain ⟨_, _, _, -, hgives, -⟩ := hget
    exact hgives.isTrimmed
  case swap =>
    intro swapped before line line' after key key' entry entry' hlines hlines' hline hline' hne
    rw [htext, htext, hlines, hlines', ofLines, ofLines, List.foldl_append, List.foldl_append,
      List.foldl_cons, List.foldl_cons, List.foldl_cons, List.foldl_cons,
      addLine_comm hline hline' hne]

/-- A key without a text behind one with a text, an indented line of hyphens and an empty key. -/
def mixedText : String := " a|b | c # d\n ---- x\n#k\n | v\na\n----\nz|1"

theorem ofText_line_by_line_sample :
    (ofText mixedText).get? "a" = some .marker ∧ (ofText mixedText).contains "---- x" = true ∧
    (ofText mixedText).contains "z" = false ∧
    ofText "a # b\n | v\n" = ofText " | v\na # b\n----\na|c" := by
  obtain ⟨-, hcontains, hget, -⟩ := ofText_line_by_line mixedText
  refine ⟨?last, ?indented, ?behind, ?swapped⟩
  case last =>
    have hlines : linesOf mixedText = [" a|b | c # d".toList, " ---- x".toList, "#k".toList,
        " | v".toList] ++ "a".toList :: [] := by decide +kernel
    have ha : Gives "a".toList "a" .marker := entryOfLine?_eq_some_iff.1 (by decide +kernel)
    exact (hget _ _).2 ⟨_, _, _, hlines, ha, fun other hother => absurd hother List.not_mem_nil⟩
  case indented =>
    have hline : " ---- x".toList ∈ linesOf mixedText := by decide +kernel
    exact (hcontains _).2
      ⟨_, hline, .marker, entryOfLine?_eq_some_iff.1 (by decide +kernel)⟩
  case behind =>
    have hkeys : ∀ line ∈ linesOf mixedText, (entryOfLine? line).map Prod.fst ≠ some "z" := by
      decide +kernel
    rw [← Bool.not_eq_true, hcontains]
    rintro ⟨line, hline, entry, h⟩
    exact hkeys line hline (by rw [entryOfLine?_eq_some_iff.2 h, Option.map_some])
  case swapped =>
    obtain ⟨-, -, -, -, hswap⟩ := ofText_line_by_line " | v\na # b\n----\na|c"
    have hv : Gives " | v".toList "" (.text "v") := entryOfLine?_eq_some_iff.1 (by decide +kernel)
    have ha : Gives "a # b".toList "a" .marker := entryOfLine?_eq_some_iff.1 (by decide +kernel)
    exact hswap _ [] _ _ [] _ _ _ _ (by decide +kernel) (by decide +kernel) hv ha (by decide)

end Table

end ReleaseGap.Overrides
