import Mathlib.Tactic.Common
import Mathlib.Tactic.FinCases
import ReleaseGap.Pattern.Read

/-!
# Reading patterns

What each construct of a pattern adds to what was read before it.  A quoted text is read as its
characters, one after the other.
-/
namespace ReleaseGap.Pattern

theorem escape?_of_isMeta {c : Char} (h : isMeta c = true) (rest : List Char) :
    escape? {} (c :: rest) = some (.char c false, rest) := by
  have hmem : c ∈ ['\\', '.', '+', '*', '?', '(', ')', '|', '[', ']', '\x7b', '\x7d', '^', '$', '#',
      '&', '-', '~'] := List.contains_iff_mem.1 h
  fin_cases hmem <;> rfl

/-- The characters that a pattern reads as something else than themselves. -/
def operators : List Char := ['(', ')', '|', '[', '?', '*', '+', '\x7b', '\\', '.', '^', '$']

theorem isMeta_of_mem_operators {c : Char} (h : c ∈ operators) : isMeta c = true := by
  fin_cases h <;> rfl

section Reading

variable {ignoreCase : Bool} {fuel : Nat} {branches : List Part} {items : List Item}
  {rest : List Char} {groups : Nat} {names : List (List Char)}

theorem readBranches?_escaped {c : Char} (h : isMeta c = true) :
    readBranches? (fuel + 1) {} branches items ⟨'\\' :: c :: rest, groups, names⟩ =
      readBranches? fuel {} branches (.part ⟨.chars (.single c), 0⟩ :: items)
        ⟨rest, groups, names⟩ := by
  have hread : readBranches? (fuel + 1) {} branches items ⟨'\\' :: c :: rest, groups, names⟩ =
      (escape? {} (c :: rest)).bind fun read => (Flags.element? {} read.1).bind fun r =>
        readBranches? fuel {} branches (.part ⟨r, 0⟩ :: items) ⟨read.2, groups, names⟩ := rfl
  rw [hread, escape?_of_isMeta h]
  rfl

theorem readBranches?_char {c : Char} (h : c ∉ operators) :
    readBranches? (fuel + 1) { ignoreCase } branches items ⟨c :: rest, groups, names⟩ =
      readBranches? fuel { ignoreCase } branches
        (.part ⟨.chars (Flags.fold { ignoreCase } (.single c)), 0⟩ :: items)
        ⟨rest, groups, names⟩ := by
  have hskip : Flags.skip { ignoreCase } (c :: rest) = c :: rest := rfl
  rw [readBranches?]
  simp only [hskip]
  split
  case h_1 hnil => cases hnil
  case h_14 =>
    rename_i hrest
    obtain ⟨rfl, rfl⟩ := List.cons.inj hrest
    rfl
  all_goals
    rename_i hrest
    exact absurd (List.cons.inj hrest).1 (ne_of_mem_of_not_mem (by decide) h).symm

theorem length_le_length_quoted (text : List Char) : text.length ≤ (quoted text).length := by
  induction text with
  | nil => exact Nat.le_refl 0
  | cons c text ih =>
    have hquoted : quoted (c :: text) = (if isMeta c then ['\\', c] else [c]) ++ quoted text := rfl
    rw [hquoted, List.length_append, List.length_cons]
    split <;> simp <;> omega

/-- Reading a quoted text takes one step for each character of the text. -/
theorem readBranches?_quoted (text : List Char) :
    readBranches? (text.length + fuel) {} branches items ⟨quoted text ++ rest, groups, names⟩ =
      readBranches? fuel {} branches
        ((text.map fun c => .part ⟨.chars (.single c), 0⟩).reverse ++ items)
        ⟨rest, groups, names⟩ := by
  induction text generalizing items with
  | nil => rw [List.length_nil, Nat.zero_add]; rfl
  | cons c text ih =>
    have hquoted : quoted (c :: text) = (if isMeta c then ['\\', c] else [c]) ++ quoted text := rfl
    rw [hquoted, List.length_cons, Nat.succ_add, List.map_cons, List.reverse_cons,
      List.append_assoc, List.append_assoc (List.reverse _), List.singleton_append, ← ih]
    split
    · rename_i h
      exact readBranches?_escaped h
    · rename_i h
      exact readBranches?_char (mt isMeta_of_mem_operators h)

theorem readBranches?_nil :
    readBranches? (fuel + 1) { ignoreCase } branches items ⟨[], groups, names⟩ =
      some (Part.ofBranches (Part.ofRow items :: branches), ⟨[], groups, names⟩) := rfl

theorem readBranches?_close :
    readBranches? (fuel + 1) { ignoreCase } branches items ⟨')' :: rest, groups, names⟩ =
      some (Part.ofBranches (Part.ofRow items :: branches), ⟨')' :: rest, groups, names⟩) := rfl

theorem readBranches?_textStart :
    readBranches? (fuel + 1) {} branches items ⟨'^' :: rest, groups, names⟩ =
      readBranches? fuel {} branches (.part ⟨.look .textStart, 0⟩ :: items)
        ⟨rest, groups, names⟩ := rfl

theorem readBranches?_textEnd :
    readBranches? (fuel + 1) {} branches items ⟨'$' :: rest, groups, names⟩ =
      readBranches? fuel {} branches (.part ⟨.look .textEnd, 0⟩ :: items)
        ⟨rest, groups, names⟩ := rfl

theorem readBranches?_bracket {text : List Char} {nested : Nested}
    (h : bracket? (2 * text.length + 2) { ignoreCase } text = some (nested, rest)) :
    readBranches? (fuel + 1) { ignoreCase } branches items ⟨'[' :: text, groups, names⟩ =
      readBranches? fuel { ignoreCase } branches
        (.part ⟨.chars nested.set, nested.depth⟩ :: items) ⟨rest, groups, names⟩ := by
  have hread :
      readBranches? (fuel + 1) { ignoreCase } branches items ⟨'[' :: text, groups, names⟩ =
        (bracket? (2 * text.length + 2) { ignoreCase } text).bind fun read =>
          readBranches? fuel { ignoreCase } branches
            (.part ⟨.chars read.1.set, read.1.depth⟩ :: items) ⟨read.2, groups, names⟩ := rfl
  rw [hread, h]
  rfl

/-- An escape that stands for a set is read as the set. -/
theorem readBranches?_escapedSet {text : List Char} {set : CharSet}
    (h : escape? { ignoreCase } text = some (.set set, rest)) :
    readBranches? (fuel + 1) { ignoreCase } branches items ⟨'\\' :: text, groups, names⟩ =
      readBranches? fuel { ignoreCase } branches (.part ⟨.chars set, 0⟩ :: items)
        ⟨rest, groups, names⟩ := by
  have hread :
      readBranches? (fuel + 1) { ignoreCase } branches items ⟨'\\' :: text, groups, names⟩ =
        (escape? { ignoreCase } text).bind fun read =>
          (Flags.element? { ignoreCase } read.1).bind fun r =>
            readBranches? fuel { ignoreCase } branches (.part ⟨r, 0⟩ :: items)
              ⟨read.2, groups, names⟩ := rfl
  rw [hread, h]
  rfl

/-- The counts that the signs of repetition stand for. -/
def signs : List (Char × Nat × Option Nat) := [('?', 0, some 1), ('*', 0, none), ('+', 1, none)]

theorem readBranches?_sign {sign : Char} {least : Nat} {most : Option Nat}
    (hsign : (sign, least, most) ∈ signs) (hgreedy : cutLazy rest = (true, rest)) (p : Part) :
    readBranches? (fuel + 1) { ignoreCase } branches (.part p :: items)
        ⟨sign :: rest, groups, names⟩ =
      readBranches? fuel { ignoreCase } branches
        (.part ⟨.times true least most p.regex, p.depth + 1⟩ :: items) ⟨rest, groups, names⟩ := by
  have hread :
      readBranches? (fuel + 1) { ignoreCase } branches (.part p :: items)
          ⟨sign :: rest, groups, names⟩ =
        (repeatLast? { ignoreCase } (cutLazy rest).1 least most (.part p :: items)).bind
          fun items => readBranches? fuel { ignoreCase } branches items
            ⟨(cutLazy rest).2, groups, names⟩ := by
    fin_cases hsign <;> rfl
  rw [hread, hgreedy]
  rfl

theorem readGroup?_of_closed {source : Source} {p : Part}
    (h : readBranches? fuel { ignoreCase } [] [] source =
      some (p, ⟨')' :: rest, groups, names⟩)) :
    readGroup? (fuel + 1) { ignoreCase } source = some (p, ⟨rest, groups, names⟩) := by
  rw [readGroup?, h]
  rfl

theorem readBranches?_plainGroup {text : List Char} {p : Part} {source : Source}
    (h : readGroup? fuel {} ⟨text, groups, names⟩ = some (p, source)) :
    readBranches? (fuel + 1) {} branches items ⟨'(' :: '?' :: ':' :: text, groups, names⟩ =
      readBranches? fuel {} branches (.part ⟨p.regex, p.depth + 1⟩ :: items) source := by
  have hread :
      readBranches? (fuel + 1) {} branches items ⟨'(' :: '?' :: ':' :: text, groups, names⟩ =
        (readGroup? fuel {} ⟨text, groups, names⟩).bind fun read =>
          readBranches? fuel {} branches (.part ⟨read.1.regex, read.1.depth + 1⟩ :: items)
            read.2 := rfl
  rw [hread, h]
  rfl

/-- The group opened first is the marked one. -/
theorem readBranches?_firstGroup {text : List Char} {p : Part} {source : Source}
    (hopen : opening? { ignoreCase } text = some (.marked none, text))
    (h : readGroup? fuel { ignoreCase } ⟨text, 1, names⟩ = some (p, source)) :
    readBranches? (fuel + 1) { ignoreCase } branches items ⟨'(' :: text, 0, names⟩ =
      readBranches? fuel { ignoreCase } branches
        (.part ⟨.marked p.regex, p.depth + 1⟩ :: items) source := by
  rw [readBranches?]
  have hskip : Flags.skip { ignoreCase } ('(' :: text) = '(' :: text := rfl
  simp only [hskip, hopen]
  show ((readGroup? fuel { ignoreCase } ⟨text, 1, names⟩).bind _) = _
  rw [h]
  rfl

/-- Flags that are set hold for what follows. -/
theorem readBranches?_setting {text : List Char} {f : Flags}
    (hopen : opening? { ignoreCase } text = some (.setting f, rest)) :
    readBranches? (fuel + 1) { ignoreCase } branches items ⟨'(' :: text, groups, names⟩ =
      readBranches? fuel f branches (.flags :: items) ⟨rest, groups, names⟩ := by
  rw [readBranches?]
  have hskip : Flags.skip { ignoreCase } ('(' :: text) = '(' :: text := rfl
  simp only [hskip, hopen]
  rfl

/-- A pattern is read if it is read to its end and stays within the limits. -/
theorem Regex.read?_of_readBranches? {pattern : List Char} {r : Regex} {depth : Nat}
    (hfuel : 2 * pattern.length + 2 = fuel)
    (hread : readBranches? fuel {} [] [] ⟨pattern, 0, []⟩ =
      some (⟨r, depth⟩, ⟨[], groups, names⟩))
    (hdepth : depth ≤ depthLimit) (hweight : r.weight ≤ weightLimit) :
    read? pattern = some r := by
  rw [read?, hfuel, hread]
  simp only [Option.bind_eq_bind, Option.bind_some, hdepth, hweight, and_self, guard, if_true]
  rfl

end Reading

namespace Part

theorem ofRow_reverse (first second : Part) (parts : List Part) :
    ofRow ((first :: second :: parts).map Item.part).reverse =
      ⟨Regex.cats ((first :: second :: parts).map (·.regex)),
        ((first :: second :: parts).map (·.depth)).foldl max 0 + 1⟩ := by
  simp [ofRow, Function.comp_def]

/-- Parts in a row are read as the parts one after the other. -/
theorem regex_ofRow (parts : List Part) :
    (ofRow (parts.map Item.part).reverse).regex = Regex.cats (parts.map (·.regex)) := by
  rcases parts with _ | ⟨first, _ | ⟨second, parts⟩⟩
  · rfl
  · rfl
  · rw [ofRow_reverse]

theorem depth_ofRow_le {parts : List Part} {depth : Nat} (h : ∀ p ∈ parts, p.depth ≤ depth) :
    (ofRow (parts.map Item.part).reverse).depth ≤ depth + 1 := by
  have hmax : (parts.map (·.depth)).foldl max 0 ≤ depth := by
    refine List.foldlRecOn (motive := (· ≤ depth)) _ max (Nat.zero_le depth) fun d hd d' hd' => ?_
    obtain ⟨p, hp, rfl⟩ := List.mem_map.1 hd'
    exact Nat.max_le.2 ⟨hd, h p hp⟩
  rcases parts with _ | ⟨first, _ | ⟨second, parts⟩⟩
  · exact Nat.zero_le _
  · exact Nat.le_succ_of_le (h first List.mem_cons_self)
  · rw [ofRow_reverse]
    exact Nat.succ_le_succ hmax

end Part

end ReleaseGap.Pattern
