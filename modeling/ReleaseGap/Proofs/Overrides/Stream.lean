import Mathlib.Data.List.DropRight
import Mathlib.Data.List.Infix
import Mathlib.Tactic.Common
import ReleaseGap.Proofs.Overrides.Segment
import ReleaseGap.Proofs.Text.Cutting

/-!
# Reading tables is parsing their texts

A table read from a stream is the table of the text up to its end line, and what it leaves is what
stands behind.  The reader of a stream keeps the ends of lines and stops inside of it; the reader of
a text drops them.  Neither sees the difference: a line end is blank, and no line begins with it
where a table ends.
-/
namespace ReleaseGap.Overrides

open Text (dropLineEnd fullLines trim trim_append_of_blank)
open Text.Utf8 (encode encodeChars encode_eq IsText isText_encodeChars exists_encodeChars
  isText_flatten decode? decode?_eq_some_iff decode?_eq_none_iff)

section LineEnds

variable {line e : List Char}

/-- What a line of a text may end with. -/
def lineEnds : List (List Char) := [[], ['\n'], ['\r', '\n']]

theorem exists_lineEnd (line : List Char) : ∃ e ∈ lineEnds, line = dropLineEnd line ++ e := by
  rw [dropLineEnd]
  split
  · rename_i r h
    exact ⟨['\r', '\n'], by decide, by simpa using congrArg List.reverse h⟩
  · rename_i r _ h
    exact ⟨['\n'], by decide, by simpa using congrArg List.reverse h⟩
  · exact ⟨[], by decide, (List.append_nil line).symm⟩

theorem lineContent_append (he : ∀ c ∈ e, Text.isBlank c = true) :
    lineContent (line ++ e) = lineContent line := by
  rw [lineContent, lineContent, List.takeWhile_append]
  split
  · rename_i h
    have hkept : ∀ c ∈ e.takeWhile (· ≠ '#'), Text.isBlank c = true := by
      intro c hc
      exact he c ((List.takeWhile_sublist _).mem hc)
    rw [(List.takeWhile_prefix _).eq_of_length h, trim_append_of_blank hkept]
  · rfl

theorem endsTable_append (he : '-' ∉ e) : endsTable (line ++ e) = endsTable line := by
  -- What ends a table is one character repeated, so no part of it is found in what is appended.
  have hprefix : ∀ p s : List Char, (∀ c ∈ p, c = '-') → (p <+: s ++ e ↔ p <+: s) := by
    intro p
    induction p with
    | nil => simp
    | cons c p ih =>
      intro s hp
      obtain ⟨rfl, htail⟩ := List.forall_mem_cons.1 hp
      cases s with
      | nil =>
        refine iff_of_false (fun h => he ?_) (by simp)
        exact h.subset List.mem_cons_self
      | cons d s => rw [List.cons_append, List.cons_prefix_cons, List.cons_prefix_cons,
        ih s htail]
  rw [Bool.eq_iff_iff, endsTable, endsTable, List.isPrefixOf_iff_prefix,
    List.isPrefixOf_iff_prefix]
  refine hprefix tableEnd line fun c hc => ?_
  have hmem : c ∈ List.replicate 4 '-' := hc
  exact List.eq_of_mem_replicate hmem

theorem addLine_dropLineEnd (t : Table) (line : List Char) :
    t.addLine (dropLineEnd line) = t.addLine line := by
  obtain ⟨e, he, heq⟩ := exists_lineEnd line
  have hblank : ∀ e ∈ lineEnds, e.all Text.isBlank = true := by decide
  have hcontent : lineContent (dropLineEnd line) = lineContent line := by
    conv_rhs => rw [heq]
    exact (lineContent_append (List.all_eq_true.1 (hblank e he))).symm
  rw [Table.addLine, Table.addLine, entryOfLine?, entryOfLine?, hcontent]

theorem endsTable_dropLineEnd (line : List Char) :
    endsTable (dropLineEnd line) = endsTable line := by
  obtain ⟨e, he, heq⟩ := exists_lineEnd line
  have hhyphen : ∀ e ∈ lineEnds, '-' ∉ e := by decide
  conv_rhs => rw [heq]
  exact (endsTable_append (hhyphen e he)).symm

/-- The table of a text is that of its lines with their ends. -/
theorem ofText_eq (text : String) :
    Table.ofText text = Table.ofLines ((fullLines text.toList).takeWhile (!endsTable ·)) := by
  rw [Table.ofText, Text.lines, List.takeWhile_map, Table.ofLines, Table.ofLines, List.foldl_map]
  simp only [addLine_dropLineEnd, Function.comp_def, endsTable_dropLineEnd]

end LineEnds

section Reading

variable {l : List UInt8} {ls : List (List UInt8)}

theorem readLines_text_cons (t : Table) (line : List Char) :
    t.readLines (encodeChars line :: ls)
      = if endsTable line then .ok (t, ls) else (t.addLine line).readLines ls := by
  have hline : decode? (encodeChars line) = some (String.ofList line) := by
    rw [decode?_eq_some_iff, encode_eq, String.toList_ofList]
  rw [Table.readLines, hline]
  simp only [String.toList_ofList]

theorem readLines_cons_of_not_isText (h : ¬ IsText l) (t : Table) :
    t.readLines (l :: ls) = .error .notUtf8 := by
  rw [Table.readLines, decode?_eq_none_iff.2 h]

/-- A table is read from the lines up to its end line; the lines behind are left. -/
theorem readLines_eq (t : Table) (ls : List (List UInt8)) :
    t.readLines ls = (t.readLines (tableLines ls)).map fun p => (p.1, linesBehind ls) := by
  induction ls generalizing t with
  | nil => rfl
  | cons l ls ih =>
    by_cases h : IsText l
    · obtain ⟨line, rfl⟩ := exists_encodeChars h
      rw [tableLines_cons, linesBehind_cons, isEndLine_encodeChars]
      cases hend : endsTable line with
      | true => simp [readLines_text_cons, hend, Except.map]
      | false => simp [readLines_text_cons, hend, ih]
    · rw [readLines_cons_of_not_isText h, tableLines_cons]
      split <;> rw [readLines_cons_of_not_isText h] <;> rfl

theorem map_fst_readLines (t : Table) (ls : List (List UInt8)) :
    (t.readLines ls).map Prod.fst = (t.readLines (tableLines ls)).map Prod.fst := by
  rw [readLines_eq]
  cases t.readLines (tableLines ls) <;> rfl

theorem readFrom_of_readLines {octets : List UInt8} {t : Table}
    (h : (Table.readLines {} (octetLines octets)).map Prod.fst = .ok t) :
    Table.readFrom octets = .ok (t, behind octets) := by
  rw [map_fst_readLines] at h
  rw [Table.readFrom, readLines_eq]
  cases hread : Table.readLines {} (tableLines (octetLines octets)) with
  | error e =>
    rw [hread] at h
    cases h
  | ok p =>
    rw [hread] at h
    cases h
    rfl

/-- Lines of text give the table that their characters give. -/
theorem readLines_texts (t : Table) (s : List (List Char)) :
    (t.readLines (s.map encodeChars)).map Prod.fst
      = .ok ((s.takeWhile (!endsTable ·)).foldl Table.addLine t) := by
  induction s generalizing t with
  | nil => rfl
  | cons line s ih =>
    rw [List.map_cons, readLines_text_cons]
    cases hend : endsTable line with
    | true => simp [hend, Except.map]
    | false => simp [hend, ih]

/-- A line that is no text is not passed over. -/
theorem readLines_of_not_isText (hmem : l ∈ tableLines ls) (hl : ¬ IsText l) (t : Table) :
    t.readLines ls = .error .notUtf8 := by
  induction ls generalizing t with
  | nil => simp [tableLines] at hmem
  | cons first ls ih =>
    by_cases h : IsText first
    · obtain ⟨line, rfl⟩ := exists_encodeChars h
      have hne : l ≠ encodeChars line := by
        rintro rfl
        exact hl h
      rw [tableLines_cons, isEndLine_encodeChars] at hmem
      rw [readLines_text_cons]
      cases hend : endsTable line with
      | true => simp [hend, hne] at hmem
      | false => exact ih (by simpa [hend, hne] using hmem) _
    · exact readLines_cons_of_not_isText h t

/-- Octets are text where each of their lines is. -/
theorem isText_iff (octets : List UInt8) : IsText octets ↔ ∀ l ∈ octetLines octets, IsText l := by
  constructor
  · intro h l hl
    obtain ⟨s, rfl⟩ := exists_encodeChars h
    rw [octetLines_encodeChars] at hl
    obtain ⟨line, -, rfl⟩ := List.mem_map.1 hl
    exact isText_encodeChars line
  · intro h
    rw [← flatten_octetLines octets]
    exact isText_flatten h

/-- A table is read where what stands up to its end line is text, and it is the table of that
text. -/
theorem readFrom_eq (octets : List UInt8) :
    Table.readFrom octets = match decode? (segment octets) with
      | some text => .ok (Table.ofText text, behind octets)
      | none => .error .notUtf8 := by
  cases h : decode? (segment octets) with
  | none =>
    have hbad : ∃ l ∈ tableLines (octetLines octets), ¬ IsText l := by
      rw [decode?_eq_none_iff, isText_iff, octetLines_segment] at h
      push Not at h
      exact h
    obtain ⟨l, hmem, hl⟩ := hbad
    rw [Table.readFrom, readLines_of_not_isText hmem hl]
    rfl
  | some text =>
    have hlines : tableLines (octetLines octets) = (fullLines text.toList).map encodeChars := by
      rw [← octetLines_segment, decode?_eq_some_iff.1 h, encode_eq, octetLines_encodeChars]
    apply readFrom_of_readLines
    rw [map_fst_readLines, hlines, readLines_texts, ofText_eq]
    rfl

/-- Where the whole stream is text, its table is the table of that text. -/
theorem readFrom_encode (text : String) :
    Table.readFrom (encode text) = .ok (Table.ofText text, behind (encode text)) := by
  apply readFrom_of_readLines
  rw [encode_eq, octetLines_encodeChars, readLines_texts, ofText_eq]
  rfl

end Reading

section FourTables

variable {i : Nat}

/-- Four texts one behind the other are read as their tables. -/
theorem readFrom_of_texts {octets : List UInt8} {t₁ t₂ t₃ t₄ : String}
    (h₁ : segmentAt 0 octets = encode t₁) (h₂ : segmentAt 1 octets = encode t₂)
    (h₃ : segmentAt 2 octets = encode t₃) (h₄ : segmentAt 3 octets = encode t₄) :
    Tables.readFrom octets = .ok (⟨Table.ofText t₁, Table.ofText t₂, Table.ofText t₃,
      Table.ofText t₄⟩, behind^[4] octets) := by
  simp only [segmentAt, ← decode?_eq_some_iff, Function.iterate_succ_apply,
    Function.iterate_zero, id] at h₁ h₂ h₃ h₄
  simp only [Tables.readFrom, readFrom_eq, h₁, h₂, h₃, h₄, bind, Except.bind]
  rfl

/-- One segment that is no text is enough to read no table. -/
theorem readFrom_of_not_isText {octets : List UInt8} (hi : i < 4)
    (h : ¬ IsText (segmentAt i octets)) : Tables.readFrom octets = .error .notUtf8 := by
  rw [← decode?_eq_none_iff] at h
  simp only [Tables.readFrom, readFrom_eq, bind, Except.bind]
  -- The first segment that is no text decides, whether it is the given one or comes before it.
  cases h₁ : decode? (segment octets) with
  | none => rfl
  | some t₁ =>
    cases h₂ : decode? (segment (behind octets)) with
    | none => simp only [h₂]
    | some t₂ =>
      cases h₃ : decode? (segment (behind (behind octets))) with
      | none => simp only [h₂, h₃]
      | some t₃ =>
        have hlast : i = 3 := by
          by_contra hne
          obtain rfl | rfl | rfl : i = 0 ∨ i = 1 ∨ i = 2 := by omega
          · exact absurd (h.symm.trans h₁) (by simp)
          · exact absurd (h.symm.trans h₂) (by simp)
          · exact absurd (h.symm.trans h₃) (by simp)
        subst hlast
        have h₄ : decode? (segment (behind (behind (behind octets)))) = none := h
        simp only [h₂, h₃, h₄]

theorem exists_texts {octets : List UInt8} (h : ∀ i < 4, IsText (segmentAt i octets)) :
    ∃ t₁ t₂ t₃ t₄, segmentAt 0 octets = encode t₁ ∧ segmentAt 1 octets = encode t₂ ∧
      segmentAt 2 octets = encode t₃ ∧ segmentAt 3 octets = encode t₄ := by
  obtain ⟨t₁, h₁⟩ := h 0 (by omega)
  obtain ⟨t₂, h₂⟩ := h 1 (by omega)
  obtain ⟨t₃, h₃⟩ := h 2 (by omega)
  obtain ⟨t₄, h₄⟩ := h 3 (by omega)
  exact ⟨t₁, t₂, t₃, t₄, h₁.symm, h₂.symm, h₃.symm, h₄.symm⟩

theorem readFrom_eq_error_iff {octets : List UInt8} :
    (∃ e, Tables.readFrom octets = .error e) ↔ ∃ i < 4, ¬ IsText (segmentAt i octets) := by
  constructor
  · rintro ⟨e, he⟩
    by_contra hall
    push Not at hall
    obtain ⟨t₁, t₂, t₃, t₄, h₁, h₂, h₃, h₄⟩ := exists_texts hall
    rw [readFrom_of_texts h₁ h₂ h₃ h₄] at he
    cases he
  · rintro ⟨i, hi, h⟩
    exact ⟨_, readFrom_of_not_isText hi h⟩

/-- The tables depend on the first four segments. -/
theorem map_fst_readFrom_congr {octets octets' : List UInt8}
    (h : ∀ i < 4, segmentAt i octets' = segmentAt i octets) :
    (Tables.readFrom octets').map Prod.fst = (Tables.readFrom octets).map Prod.fst := by
  by_cases hall : ∀ i < 4, IsText (segmentAt i octets)
  · obtain ⟨t₁, t₂, t₃, t₄, h₁, h₂, h₃, h₄⟩ := exists_texts hall
    rw [readFrom_of_texts h₁ h₂ h₃ h₄, readFrom_of_texts ((h 0 (by omega)).trans h₁)
      ((h 1 (by omega)).trans h₂) ((h 2 (by omega)).trans h₃) ((h 3 (by omega)).trans h₄)]
    rfl
  · push Not at hall
    obtain ⟨i, hi, hbad⟩ := hall
    rw [readFrom_of_not_isText hi hbad, readFrom_of_not_isText hi (by rwa [h i hi])]

end FourTables

/-- Reading from a stream is parsing.  The stream of a text gives the table of the text and leaves
what stands behind its first end line.  Four tables are those of the texts from one end line up to
the next, where a segment that is missing is empty; what stands behind the fourth end line has no
part in them.  They cannot be read when, and only when, one of the lines up to the fourth end line
is not UTF-8. -/
theorem readFrom_parses :
    (∀ text : String, Table.readFrom (encode text)
      = .ok (Table.ofText text, behind (encode text))) ∧
    (∀ (octets : List UInt8) (t₁ t₂ t₃ t₄ : String),
      segmentAt 0 octets = encode t₁ → segmentAt 1 octets = encode t₂ →
      segmentAt 2 octets = encode t₃ → segmentAt 3 octets = encode t₄ →
      Tables.readFrom octets = .ok (⟨Table.ofText t₁, Table.ofText t₂, Table.ofText t₃,
        Table.ofText t₄⟩, behind^[4] octets)) ∧
    (∀ octets : List UInt8, segmentAt 0 octets ++ (segmentAt 1 octets ++ (segmentAt 2 octets ++
      (segmentAt 3 octets ++ behind^[4] octets))) = octets) ∧
    (∀ (octets : List UInt8) (i : Nat), (octetLines octets).countP isEndLine < i →
      segmentAt i octets = encode "") ∧ Table.ofText "" = {} ∧
    (∀ octets : List UInt8, octets.getLast? = some 10 →
      4 ≤ (octetLines octets).countP isEndLine → ∀ tail : List UInt8,
      (Tables.readFrom (octets ++ tail)).map Prod.fst = (Tables.readFrom octets).map Prod.fst) ∧
    ∀ octets : List UInt8, (∃ e, Tables.readFrom octets = .error e) ↔
      ∃ before line after, octetLines octets = before ++ line :: after ∧
        before.countP isEndLine < 4 ∧ ¬ IsText line := by
  refine ⟨readFrom_encode, ?_, segments_append, ?_, rfl, ?_, ?_⟩
  · intro octets t₁ t₂ t₃ t₄ h₁ h₂ h₃ h₄
    exact readFrom_of_texts h₁ h₂ h₃ h₄
  · intro octets i h
    rw [segmentAt_eq_nil h, encode_eq]
    rfl
  · intro octets hlf hcount tail
    refine map_fst_readFrom_congr fun i hi => ?_
    exact segmentAt_append hlf (by omega) tail
  · intro octets
    rw [readFrom_eq_error_iff]
    constructor
    · rintro ⟨i, hi, h⟩
      rw [isText_iff] at h
      push Not at h
      obtain ⟨line, hmem, hline⟩ := h
      obtain ⟨before, after, heq, hcount⟩ := mem_octetLines_segmentAt_iff.1 hmem
      exact ⟨before, line, after, heq, by omega, hline⟩
    · rintro ⟨before, line, after, heq, hcount, hline⟩
      refine ⟨_, hcount, fun h => hline ?_⟩
      exact (isText_iff _).1 h line (mem_octetLines_segmentAt_iff.2 ⟨before, after, heq, rfl⟩)

/-- An octet that is no text, behind the fourth end line. -/
theorem readFrom_parses_sample :
    Tables.readFrom (encode "a | 1 # b\r\n----\nc\n----\n----\nd|\n---- \n" ++ [255])
      = .ok (⟨Table.ofText "a | 1 # b\r\n----\n", Table.ofText "c\n----\n",
          Table.ofText "----\n", Table.ofText "d|\n---- \n"⟩, [255]) := by
  have hbehind :
      behind^[4] (encode "a | 1 # b\r\n----\nc\n----\n----\nd|\n---- \n" ++ [255]) = [255] := by
    simp only [encode_eq]
    decide +kernel
  conv_rhs => rw [← hbehind]
  apply readFrom_parses.2.1 <;> simp only [encode_eq] <;> decide +kernel

end ReleaseGap.Overrides
