import ReleaseGap.Text.Blank

/-!
# Cutting texts

A text is cut at the first or at the last occurrence of a separator, at every occurrence, or into
lines.  The functions work on characters and lose nothing but what they cut at.
-/

namespace ReleaseGap.Text

/-- What stands before and after the first `sep`. -/
def splitFirst? (sep : Char) : List Char → Option (List Char × List Char)
  | [] => none
  | c :: r =>
    if c = sep then some ([], r)
    else (splitFirst? sep r).map fun (a, b) => (c :: a, b)

/-- What stands before and after the last `sep`. -/
def splitLast? (sep : Char) : List Char → Option (List Char × List Char)
  | [] => none
  | c :: r =>
    match splitLast? sep r with
    | some (a, b) => some (c :: a, b)
    | none => if c = sep then some ([], r) else none

/-- The fields between separators; there is always one more field than separators. -/
def fields (sep : Char) : List Char → List (List Char)
  | [] => [[]]
  | c :: r =>
    match fields sep r with
    | [] => [[c]]
    | f :: fs => if c = sep then [] :: f :: fs else (c :: f) :: fs

/-- The text cut behind every line feed.  The line feeds stay, and nothing follows the last one
when the text ends with it. -/
def fullLines : List Char → List (List Char)
  | [] => []
  | c :: r =>
    if c = '\n' then ['\n'] :: fullLines r
    else match fullLines r with
      | [] => [[c]]
      | l :: ls => (c :: l) :: ls

/-- A line without its line feed and the carriage return before it. -/
def dropLineEnd (l : List Char) : List Char :=
  match l.reverse with
  | '\n' :: '\r' :: r => r.reverse
  | '\n' :: r => r.reverse
  | _ => l

/-- The lines of a text without their ends. -/
def lines (s : List Char) : List (List Char) := (fullLines s).map dropLineEnd

/-- Whether `needle` occurs in a text. -/
def occursIn (needle : List Char) : List Char → Bool
  | [] => needle.isEmpty
  | c :: r => needle.isPrefixOf (c :: r) || occursIn needle r

/-- Whether a text starts with `lead`. -/
def startsWith (s lead : String) : Bool := lead.toList.isPrefixOf s.toList

/-- Whether a text ends with `tail`. -/
def endsWith (s tail : String) : Bool := tail.toList.isSuffixOf s.toList

/-- Whether a text contains `needle`. -/
def contains (s needle : String) : Bool := occursIn needle.toList s.toList

/-- Drops `lead` from the front, if the text starts with it. -/
def dropLead? (lead s : List Char) : Option (List Char) :=
  if lead.isPrefixOf s then some (s.drop lead.length) else none

/-- The texts with `sep` between them. -/
def joinWith (sep : String) (texts : List String) : String := sep.intercalate texts

theorem startsWith_append (lead tail : String) : startsWith (lead ++ tail) lead = true :=
  List.isPrefixOf_iff_prefix.2 ⟨tail.toList, by simp⟩

theorem dropLead?_eq_some_iff {lead s r : List Char} :
    dropLead? lead s = some r ↔ s = lead ++ r := by
  rw [dropLead?]
  split
  · rename_i h
    obtain ⟨t, rfl⟩ := List.isPrefixOf_iff_prefix.1 h
    simp
  · rename_i h
    constructor
    · exact fun hr => by cases hr
    · rintro rfl
      exact absurd (List.isPrefixOf_iff_prefix.2 (List.prefix_append lead r)) h

theorem append_of_splitFirst? {sep : Char} {s a b : List Char}
    (h : splitFirst? sep s = some (a, b)) : s = a ++ sep :: b := by
  induction s generalizing a with
  | nil => simp [splitFirst?] at h
  | cons c r ih =>
    by_cases hc : c = sep
    · simp only [splitFirst?, hc, if_true, Option.some.injEq, Prod.mk.injEq] at h
      simp [hc, ← h.1, ← h.2]
    · simp only [splitFirst?, hc, if_false, Option.map_eq_some_iff] at h
      obtain ⟨⟨a', b'⟩, hr, he⟩ := h
      simp only [Prod.mk.injEq] at he
      obtain ⟨rfl, rfl⟩ := he
      simp [ih hr]

theorem append_of_splitLast? {sep : Char} {s a b : List Char}
    (h : splitLast? sep s = some (a, b)) : s = a ++ sep :: b := by
  induction s generalizing a with
  | nil => simp [splitLast?] at h
  | cons c r ih =>
    cases hr : splitLast? sep r with
    | some p =>
      obtain ⟨a', b'⟩ := p
      simp only [splitLast?, hr, Option.some.injEq, Prod.mk.injEq] at h
      obtain ⟨rfl, rfl⟩ := h
      simp [ih hr]
    | none =>
      by_cases hc : c = sep
      · simp only [splitLast?, hr, hc, if_true, Option.some.injEq, Prod.mk.injEq] at h
        simp [hc, ← h.1, ← h.2]
      · simp [splitLast?, hr, hc] at h

theorem splitLast?_eq_none_iff {sep : Char} {s : List Char} :
    splitLast? sep s = none ↔ sep ∉ s := by
  induction s with
  | nil => simp [splitLast?]
  | cons c r ih =>
    rw [List.mem_cons, not_or, ← ih, splitLast?]
    cases splitLast? sep r with
    | some p => simp
    | none => simp [eq_comm (a := sep)]

/-- A text has one last separator, the one that none follows. -/
theorem splitLast?_eq_some_iff {sep : Char} {s a b : List Char} :
    splitLast? sep s = some (a, b) ↔ s = a ++ sep :: b ∧ sep ∉ b := by
  constructor
  · intro h
    refine ⟨append_of_splitLast? h, ?_⟩
    induction s generalizing a with
    | nil => simp [splitLast?] at h
    | cons c r ih =>
      cases hr : splitLast? sep r with
      | some p =>
        obtain ⟨a', b'⟩ := p
        simp only [splitLast?, hr, Option.some.injEq, Prod.mk.injEq] at h
        obtain ⟨-, rfl⟩ := h
        exact ih hr
      | none =>
        by_cases hc : c = sep
        · simp only [splitLast?, hr, hc, if_true, Option.some.injEq, Prod.mk.injEq] at h
          exact h.2 ▸ splitLast?_eq_none_iff.1 hr
        · simp [splitLast?, hr, hc] at h
  · rintro ⟨rfl, hb⟩
    induction a with
    | nil => simp [splitLast?, splitLast?_eq_none_iff.2 hb]
    | cons c a ih => simp [splitLast?, ih]

end ReleaseGap.Text
