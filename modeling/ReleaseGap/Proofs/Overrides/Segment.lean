import Mathlib.Data.List.Infix
import Mathlib.Logic.Function.Iterate
import Mathlib.Tactic.Common
import ReleaseGap.Overrides.Stream
import ReleaseGap.Proofs.Text.Utf8

/-!
# The segments of a stream

End lines cut a stream of octets into segments, one for each table.  Nothing is lost between the
segments, a segment has the lines that stand behind as many end lines as segments come before it,
and what follows the end line of a segment has no part in it.
-/
namespace ReleaseGap.Overrides

open Text (fullLines)
open Text.Utf8 (encode encodeChars encode_eq)

section Lines

/-- Octets without a line feed belong to the line behind them. -/
theorem octetLines_append_of_notMem {piece : List UInt8} (hlf : 10 ∉ piece) (hne : piece ≠ [])
    (r : List UInt8) : octetLines (piece ++ r) = match octetLines r with
      | [] => [piece]
      | l :: ls => (piece ++ l) :: ls := by
  induction piece with
  | nil => exact absurd rfl hne
  | cons b piece ih =>
    rw [List.mem_cons, not_or] at hlf
    obtain ⟨hb, hpiece⟩ := hlf
    rw [List.cons_append, octetLines, if_neg (Ne.symm hb)]
    cases piece with
    | nil => rfl
    | cons b' piece =>
      rw [ih hpiece (List.cons_ne_nil _ _)]
      cases octetLines r <;> rfl

/-- The octets of a text are cut where its characters are. -/
theorem octetLines_encodeChars (s : List Char) :
    octetLines (encodeChars s) = (fullLines s).map encodeChars := by
  induction s with
  | nil => rfl
  | cons c s ih =>
    rw [fullLines]
    by_cases hc : c = '\n'
    · subst hc
      rw [if_pos rfl, List.map_cons, ← ih]
      rfl
    · have hcut := octetLines_append_of_notMem (mt Text.Utf8.lf_mem_encodeChar_iff.1 hc)
        (by simp) (encodeChars s)
      rw [ih] at hcut
      rw [if_neg hc, encodeChars, List.flatMap_cons]
      refine hcut.trans ?_
      cases fullLines s <;> simp [encodeChars]

/-- The lines of a stream up to a place, and those behind it, are the lines of what stands there. -/
theorem octetLines_flatten {octets : List UInt8} {before after : List (List UInt8)}
    (h : octetLines octets = before ++ after) :
    octetLines before.flatten = before ∧ octetLines after.flatten = after := by
  induction octets generalizing before with
  | nil =>
    obtain ⟨rfl, rfl⟩ := List.append_eq_nil_iff.1 h.symm
    exact ⟨rfl, rfl⟩
  | cons b r ih =>
    cases before with
    | nil =>
      refine ⟨rfl, ?_⟩
      rw [List.nil_append] at h
      rw [← h, flatten_octetLines]
    | cons line before =>
      rw [octetLines] at h
      split at h
      · obtain ⟨rfl, hrest⟩ := List.cons.inj h
        obtain ⟨hbefore, hafter⟩ := ih hrest
        exact ⟨by simp [octetLines, hbefore], hafter⟩
      · rename_i hb
        split at h
        · rename_i hr
          obtain ⟨rfl, hrest⟩ := List.cons.inj h
          obtain ⟨rfl, rfl⟩ := List.append_eq_nil_iff.1 hrest.symm
          exact ⟨by simp [octetLines, hb], rfl⟩
        · rename_i l ls hr
          obtain ⟨rfl, rfl⟩ := List.cons.inj h
          obtain ⟨hbefore, hafter⟩ := @ih (l :: before) hr
          refine ⟨?_, hafter⟩
          rw [List.flatten_cons] at hbefore ⊢
          rw [List.cons_append, octetLines, if_neg hb, hbefore]

theorem octetLines_append {octets : List UInt8} (h : ∀ b ∈ octets.getLast?, b = 10)
    (tail : List UInt8) : octetLines (octets ++ tail) = octetLines octets ++ octetLines tail := by
  induction octets with
  | nil => rfl
  | cons b r ih =>
    cases r with
    | nil =>
      obtain rfl : b = 10 := h b (by simp)
      rfl
    | cons b' r =>
      rw [List.cons_append, octetLines, octetLines, ih (by simpa using h)]
      split
      · rfl
      · have hne : octetLines (b' :: r) ≠ [] := by
          intro hnil
          have hflat := flatten_octetLines (b' :: r)
          simp [hnil] at hflat
        obtain ⟨l, ls, hls⟩ := List.exists_cons_of_ne_nil hne
        rw [hls]
        rfl

end Lines

section Tables

/-- Whether a line of a stream ends a table. -/
def isEndLine (line : List UInt8) : Bool := (encode "----").isPrefixOf line

/-- The lines up to the first end line, and that one. -/
def tableLines (ls : List (List UInt8)) : List (List UInt8) := ls.take (ls.findIdx isEndLine + 1)

/-- The lines behind the first end line. -/
def linesBehind (ls : List (List UInt8)) : List (List UInt8) := ls.drop (ls.findIdx isEndLine + 1)

/-- What a stream holds up to its first end line. -/
def segment (octets : List UInt8) : List UInt8 := (tableLines (octetLines octets)).flatten

/-- What a stream holds behind its first end line. -/
def behind (octets : List UInt8) : List UInt8 := (linesBehind (octetLines octets)).flatten

variable {l : List UInt8} {ls : List (List UInt8)}

theorem isEndLine_encodeChars (line : List Char) :
    isEndLine (encodeChars line) = endsTable line := by
  rw [Bool.eq_iff_iff, isEndLine, endsTable, List.isPrefixOf_iff_prefix,
    List.isPrefixOf_iff_prefix, encode_eq, Text.Utf8.encodeChars_isPrefix_iff]
  rfl

theorem tableLines_cons :
    tableLines (l :: ls) = if isEndLine l then [l] else l :: tableLines ls := by
  rw [tableLines, List.findIdx_cons]
  cases isEndLine l <;> rfl

theorem linesBehind_cons : linesBehind (l :: ls) = if isEndLine l then ls else linesBehind ls := by
  rw [linesBehind, List.findIdx_cons]
  cases isEndLine l <;> rfl

theorem tableLines_append_linesBehind (ls : List (List UInt8)) :
    tableLines ls ++ linesBehind ls = ls := List.take_append_drop _ _

theorem segment_append_behind (octets : List UInt8) : segment octets ++ behind octets = octets := by
  rw [segment, behind, ← List.flatten_append, tableLines_append_linesBehind, flatten_octetLines]

theorem octetLines_segment (octets : List UInt8) :
    octetLines (segment octets) = tableLines (octetLines octets) :=
  (octetLines_flatten (tableLines_append_linesBehind _).symm).1

theorem octetLines_behind (octets : List UInt8) :
    octetLines (behind octets) = linesBehind (octetLines octets) :=
  (octetLines_flatten (tableLines_append_linesBehind _).symm).2

end Tables

section Segments

variable {l line : List UInt8} {ls : List (List UInt8)} {i : Nat}

/-- What a stream holds from one end line up to the next. -/
def segmentAt (i : Nat) (octets : List UInt8) : List UInt8 := segment (behind^[i] octets)

/-- The line stands among the others behind so many end lines. -/
def StandsBehind (i : Nat) (line : List UInt8) (ls : List (List UInt8)) : Prop :=
  ∃ before after, ls = before ++ line :: after ∧ before.countP isEndLine = i

theorem standsBehind_cons : StandsBehind i line (l :: ls) ↔
    line = l ∧ i = 0 ∨ ∃ j, StandsBehind j line ls ∧ i = j + if isEndLine l then 1 else 0 := by
  constructor
  · rintro ⟨before, after, heq, rfl⟩
    cases before with
    | nil =>
      obtain ⟨rfl, -⟩ := List.cons.inj heq
      exact .inl ⟨rfl, rfl⟩
    | cons first before =>
      obtain ⟨rfl, rfl⟩ := List.cons.inj heq
      exact .inr ⟨_, ⟨before, after, rfl, rfl⟩, List.countP_cons⟩
  · rintro (⟨rfl, rfl⟩ | ⟨j, ⟨before, after, rfl, rfl⟩, rfl⟩)
    · exact ⟨[], ls, rfl, rfl⟩
    · exact ⟨l :: before, after, rfl, List.countP_cons⟩

theorem not_standsBehind_nil : ¬ StandsBehind i line [] := by
  rintro ⟨before, after, heq, -⟩
  simp at heq

theorem mem_tableLines_iff : line ∈ tableLines ls ↔ StandsBehind 0 line ls := by
  induction ls with
  | nil => simp [tableLines, not_standsBehind_nil]
  | cons l ls ih =>
    rw [tableLines_cons, standsBehind_cons]
    cases isEndLine l <;> simp [ih]

theorem standsBehind_linesBehind_iff :
    StandsBehind i line (linesBehind ls) ↔ StandsBehind (i + 1) line ls := by
  induction ls with
  | nil => simp [linesBehind, not_standsBehind_nil]
  | cons l ls ih =>
    rw [linesBehind_cons, standsBehind_cons]
    cases isEndLine l <;> simp [ih]

theorem octetLines_behind_iterate (i : Nat) (octets : List UInt8) :
    octetLines (behind^[i] octets) = linesBehind^[i] (octetLines octets) :=
  Function.Semiconj.iterate_right octetLines_behind i octets

theorem octetLines_segmentAt (i : Nat) (octets : List UInt8) :
    octetLines (segmentAt i octets) = tableLines (linesBehind^[i] (octetLines octets)) := by
  rw [segmentAt, octetLines_segment, octetLines_behind_iterate]

/-- The lines of a segment are those behind as many end lines as segments come before. -/
theorem mem_octetLines_segmentAt_iff {octets : List UInt8} :
    line ∈ octetLines (segmentAt i octets) ↔ StandsBehind i line (octetLines octets) := by
  rw [octetLines_segmentAt]
  generalize octetLines octets = ls
  induction i generalizing ls with
  | zero => exact mem_tableLines_iff
  | succ i ih => rw [Function.iterate_succ_apply, ih, standsBehind_linesBehind_iff]

/-- A segment is missing where fewer end lines stand than have to come before it. -/
theorem segmentAt_eq_nil {octets : List UInt8} (h : (octetLines octets).countP isEndLine < i) :
    segmentAt i octets = [] := by
  rw [← flatten_octetLines (segmentAt i octets), List.flatten_eq_nil_iff]
  intro line hline
  obtain ⟨before, after, heq, hcount⟩ := mem_octetLines_segmentAt_iff.1 hline
  rw [heq, List.countP_append, hcount] at h
  omega

theorem segments_append (octets : List UInt8) :
    segmentAt 0 octets ++ (segmentAt 1 octets ++ (segmentAt 2 octets ++
      (segmentAt 3 octets ++ behind^[4] octets))) = octets := by
  simp only [segmentAt, Function.iterate_succ_apply, Function.iterate_zero, id,
    segment_append_behind]

/-- What comes behind an end line is left for the segments that follow. -/
theorem linesBehind_append (h : 0 < ls.countP isEndLine) (rest : List (List UInt8)) :
    tableLines (ls ++ rest) = tableLines ls ∧
    linesBehind (ls ++ rest) = linesBehind ls ++ rest ∧
    ls.countP isEndLine = (linesBehind ls).countP isEndLine + 1 := by
  induction ls with
  | nil => simp at h
  | cons l ls ih =>
    rw [List.cons_append, tableLines_cons, tableLines_cons, linesBehind_cons, linesBehind_cons,
      List.countP_cons]
    cases hl : isEndLine l with
    | true => simp
    | false => simpa [hl] using ih (by simpa [hl] using h)

theorem tableLines_iterate_append (h : i < ls.countP isEndLine) (rest : List (List UInt8)) :
    tableLines (linesBehind^[i] (ls ++ rest)) = tableLines (linesBehind^[i] ls) := by
  induction i generalizing ls with
  | zero => exact (linesBehind_append h rest).1
  | succ i ih =>
    obtain ⟨-, happend, hcount⟩ := linesBehind_append (show 0 < ls.countP isEndLine by omega) rest
    rw [Function.iterate_succ_apply, Function.iterate_succ_apply, happend, ih (by omega)]

theorem segmentAt_append {octets : List UInt8} (hlf : octets.getLast? = some 10)
    (h : i < (octetLines octets).countP isEndLine) (tail : List UInt8) :
    segmentAt i (octets ++ tail) = segmentAt i octets := by
  rw [← flatten_octetLines (segmentAt i (octets ++ tail)),
    ← flatten_octetLines (segmentAt i octets), octetLines_segmentAt, octetLines_segmentAt,
    octetLines_append (by simp [hlf]), tableLines_iterate_append h]

end Segments

end ReleaseGap.Overrides
