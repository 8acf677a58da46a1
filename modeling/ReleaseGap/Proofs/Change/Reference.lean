import ReleaseGap.Change.Message
import ReleaseGap.Proofs.Pattern.Finding
import ReleaseGap.Proofs.Pattern.Reading
import ReleaseGap.Proofs.Pattern.Weight

/-!
# References to fixed issues

A reference to a fixed issue is what the pattern `FIX[EDS]* [A-Z]+-(\d+)` matches when case does not
count.  The pattern is read as a row of sets, and what it finds at a place is what the reader of
references reads there.
-/
namespace ReleaseGap.Message

open Pattern

/-! ### The pattern -/

/-- The pattern of references. -/
def referencePattern : List Char := "(?i)FIX[EDS]* [A-Z]+-(\\d+)".toList

/-- The flags of the pattern: case does not count. -/
def caseless : Flags := { ignoreCase := true }

theorem fold_caseless (s : CharSet) : caseless.fold s = s.fold := rfl

/-- One character in either case. -/
def oneOf (c : Char) : CharSet := caseless.fold (.single c)

/-- The letters that may follow `fix`. -/
def endings : CharSet := caseless.fold (.ofRanges [(0x53, 0x53), (0x44, 0x44), (0x45, 0x45)])

/-- The letters of a project. -/
def letters : CharSet := caseless.fold (.ofRanges [(0x41, 0x5A)])

/-- The parts of the pattern as they are read. -/
def referenceParts : List Part :=
  [⟨.empty, 0⟩, ⟨.chars (oneOf 'F'), 0⟩, ⟨.chars (oneOf 'I'), 0⟩, ⟨.chars (oneOf 'X'), 0⟩,
    ⟨.repeated true 0 none (.chars endings), 3⟩, ⟨.chars (oneOf ' '), 0⟩,
    ⟨.repeated true 1 none (.chars letters), 2⟩, ⟨.chars (oneOf '-'), 0⟩,
    ⟨.marked (.repeated true 1 none (.chars digits)), 2⟩]

/-- The pattern as it is read. -/
def reference : Regex := .cats (referenceParts.map (·.regex))

/-- What stands in the group of the pattern, up to its end. -/
def numberText : List Char := ['\\', 'd', '+', ')']

/-- What stands behind the bracket of the project's letters. -/
def projectText : List Char := "A-Z]".toList ++ '+' :: '-' :: '(' :: numberText

/-- What stands behind the bracket of the endings. -/
def endingText : List Char := "EDS]".toList ++ '*' :: ' ' :: '[' :: projectText

theorem referencePattern_eq :
    referencePattern = '(' :: ("?i)".toList ++ 'F' :: 'I' :: 'X' :: '[' :: endingText) := rfl

theorem readGroup?_numberText (fuel : Nat) :
    readGroup? (fuel + 4) caseless ⟨numberText, 1, []⟩ =
      some (⟨.repeated true 1 none (.chars digits), 1⟩, ⟨[], 1, []⟩) := by
  have hset : escape? caseless ['d', '+', ')'] = some (.set digits, ['+', ')']) := by
    simp [escape?, shortSet?, Flags.negate?, caseless]
  have hsign : ('+', 1, none) ∈ signs := by decide
  refine readGroup?_of_closed ?_
  rw [numberText, readBranches?_escapedSet hset, readBranches?_sign hsign rfl,
    readBranches?_close]
  rfl

theorem readBranches?_referencePattern (fuel : Nat) :
    readBranches? (fuel + 16) {} [] [] ⟨referencePattern, 0, []⟩ =
      some (⟨reference, 4⟩, ⟨[], 1, []⟩) := by
  have hopen : opening? {} ("?i)".toList ++ 'F' :: 'I' :: 'X' :: '[' :: endingText) =
      some (.setting caseless, 'F' :: 'I' :: 'X' :: '[' :: endingText) := rfl
  have hendings : bracket? (2 * endingText.length + 2) caseless endingText =
      some (⟨endings, 2⟩, '*' :: ' ' :: '[' :: projectText) := rfl
  have hletters : bracket? (2 * projectText.length + 2) caseless projectText =
      some (⟨letters, 1⟩, '+' :: '-' :: '(' :: numberText) := rfl
  have hgroup : opening? caseless numberText = some (.marked none, numberText) := rfl
  have hstar : ('*', 0, none) ∈ signs := by decide
  have hplus : ('+', 1, none) ∈ signs := by decide
  rw [referencePattern_eq, readBranches?_setting hopen, caseless, readBranches?_char (by decide),
    readBranches?_char (by decide), readBranches?_char (by decide),
    readBranches?_bracket hendings, readBranches?_sign hstar rfl,
    readBranches?_char (by decide), readBranches?_bracket hletters,
    readBranches?_sign hplus rfl, readBranches?_char (by decide),
    readBranches?_firstGroup hgroup (readGroup?_numberText _), readBranches?_nil]
  rfl

theorem isAscii_single {c : Char} (h : c.toNat < 128) : CharSet.isAscii (.single c) = true := by
  simpa [CharSet.isAscii, CharSet.single] using h

theorem endings_eq : endings = CharSet.fold [(0x44, 0x45), (0x53, 0x53)] := by
  have hranges : CharSet.ofRanges [(0x53, 0x53), (0x44, 0x44), (0x45, 0x45)] =
      [(0x44, 0x45), (0x53, 0x53)] := by
    simp [CharSet.ofRanges, List.mergeSort, CharSet.join]
  exact (fold_caseless _).trans (congrArg CharSet.fold hranges)

theorem letters_eq : letters = CharSet.fold [(0x41, 0x5A)] := by
  have hranges : CharSet.ofRanges [(0x41, 0x5A)] = [(0x41, 0x5A)] := by
    simp [CharSet.ofRanges, CharSet.join]
  exact (fold_caseless _).trans (congrArg CharSet.fold hranges)

theorem weight_chars_le {s : CharSet} (h : s.length ≤ 76) :
    (Regex.chars s).weight ≤ 332000 := by
  have hweight := Regex.setWeight_le s
  rw [Regex.weight]
  omega

theorem weight_fold_le {s : CharSet} (hascii : s.isAscii = true) (h : s.length ≤ 2) :
    (Regex.chars s.fold).weight ≤ 332000 := by
  have hlength := CharSet.length_fold_le hascii
  exact weight_chars_le (by omega)

theorem weight_run_le {s : CharSet} {least : Nat} (hleast : least ≤ 1)
    (h : (Regex.chars s).weight ≤ 332000) :
    (Regex.repeated true least none (.chars s)).weight ≤ 332080 := by
  have hmax : max least 1 = 1 := Nat.max_eq_right hleast
  rw [Regex.weight, hmax]
  omega

theorem weight_marked_le {r : Regex} {bound : Nat} (h : r.weight ≤ bound) :
    (Regex.marked r).weight ≤ bound + 64 := by
  rw [Regex.weight]
  omega

theorem weight_reference_le : reference.weight ≤ Regex.weightLimit := by
  have hone {c : Char} (h : c.toNat < 128) : (Regex.chars (oneOf c)).weight ≤ 332000 :=
    weight_fold_le (isAscii_single h) (Nat.le_succ 1)
  have hendings : (Regex.chars endings).weight ≤ 332000 :=
    endings_eq ▸ weight_fold_le rfl (Nat.le_refl 2)
  have hletters : (Regex.chars letters).weight ≤ 332000 :=
    letters_eq ▸ weight_fold_le rfl (Nat.le_succ 1)
  have hdigits : (Regex.chars digits).weight ≤ 332000 := weight_chars_le length_digits_le
  have hparts : ∀ p ∈ referenceParts, p.regex.weight ≤ 333000 := by
    simp only [referenceParts, List.mem_cons, List.not_mem_nil, or_false]
    rintro p (rfl | rfl | rfl | rfl | rfl | rfl | rfl | rfl | rfl)
    · exact Nat.zero_le _
    · exact Nat.le_trans (hone (by decide)) (by decide)
    · exact Nat.le_trans (hone (by decide)) (by decide)
    · exact Nat.le_trans (hone (by decide)) (by decide)
    · exact Nat.le_trans (weight_run_le (Nat.zero_le 1) hendings) (by decide)
    · exact Nat.le_trans (hone (by decide)) (by decide)
    · exact Nat.le_trans (weight_run_le (Nat.le_refl 1) hletters) (by decide)
    · exact Nat.le_trans (hone (by decide)) (by decide)
    · exact Nat.le_trans (weight_marked_le (weight_run_le (Nat.le_refl 1) hdigits)) (by decide)
  have hrow : reference.weight ≤ referenceParts.length * 333000 :=
    List.length_map (Part.regex) ▸ Regex.weight_cats_le (List.forall_mem_map.2 hparts)
  exact Nat.le_trans hrow (by decide)

theorem read?_referencePattern : Regex.read? referencePattern = some reference := by
  have hfuel : 2 * referencePattern.length + 2 = 38 + 16 := rfl
  exact Regex.read?_of_readBranches? hfuel (readBranches?_referencePattern 38) (by decide)
    weight_reference_le

/-! ### The sets -/

theorem foldLetter_eq_iff {c d : Char} (h : d.toNat < 65) : Text.foldLetter c = d ↔ c = d := by
  rw [← Char.toNat_inj, ← Char.toNat_inj, CharSet.toNat_foldLetter, CharSet.foldCode]
  split_ifs <;> omega

theorem contains_oneOf {c : Char} (h : c.toNat < 128) (d : Char) :
    (oneOf c).contains d = decide (Text.foldLetter d = Text.foldLetter c) := by
  rw [Bool.eq_iff_iff, oneOf, fold_caseless, CharSet.contains_fold_iff (isAscii_single h),
    decide_eq_true_eq, ← Char.toNat_inj, CharSet.toNat_foldLetter c]
  constructor
  · rintro ⟨m, hm, hsame⟩
    obtain rfl : m = c.toNat := by
      simpa [CharSet.has, CharSet.single, Nat.le_antisymm_iff, and_comm] using hm
    exact hsame.symm
  · intro hsame
    exact ⟨c.toNat, by simp [CharSet.has, CharSet.single], hsame.symm⟩

/-- The capital letters from one to another, folded. -/
theorem exists_foldCode_eq_iff {a b n : Nat} (ha : 65 ≤ a) (hb : b ≤ 90) :
    (∃ m, (a ≤ m ∧ m ≤ b) ∧ CharSet.foldCode m = n) ↔ a + 32 ≤ n ∧ n ≤ b + 32 := by
  constructor
  · rintro ⟨m, hm, rfl⟩
    rw [CharSet.foldCode, if_pos (by omega)]
    omega
  · intro hn
    refine ⟨n - 32, by omega, ?_⟩
    rw [CharSet.foldCode, if_pos (by omega)]
    omega

theorem contains_endings : endings.contains = isFixEnding := by
  funext c
  rw [Bool.eq_iff_iff, endings_eq, CharSet.contains_fold_iff rfl]
  simp only [CharSet.has, List.any_cons, List.any_nil, Bool.or_false, Bool.or_eq_true,
    Bool.and_eq_true, decide_eq_true_eq, or_and_right, exists_or, isFixEnding, ← Char.toNat_inj]
  rw [exists_foldCode_eq_iff (by decide) (by decide),
    exists_foldCode_eq_iff (by decide) (by decide)]
  simp only [Char.reduceToNat]
  omega

theorem contains_letters : letters.contains = isLetter := by
  funext c
  rw [Bool.eq_iff_iff, letters_eq, CharSet.contains_fold_iff rfl]
  simp only [CharSet.has, List.any_cons, List.any_nil, Bool.or_false, Bool.and_eq_true,
    decide_eq_true_eq, isLetter, Char.le_def, UInt32.le_iff_toNat_le, Char.toNat_val]
  rw [exists_foldCode_eq_iff (by decide) (by decide)]
  simp only [Char.reduceToNat]

/-! ### What the pattern finds -/

theorem afterOne_letter {c : Char} (h : c.toNat < 128) (read : Reads) (s : List Char) :
    read.afterOne (oneOf c) s = (Text.dropWord? [Text.foldLetter c] s).bind read := by
  cases s with
  | nil => rfl
  | cons d r =>
    rw [Reads.afterOne, contains_oneOf h, Text.dropWord?]
    by_cases hd : Text.foldLetter d = Text.foldLetter c <;> simp [hd, Text.dropWord?]

theorem afterOne_sign {c : Char} (h : c.toNat < 65) (read : Reads) (s : List Char) :
    read.afterOne (oneOf c) s = (Text.dropLead? [c] s).bind read := by
  have hfold : Text.foldLetter c = c := (foldLetter_eq_iff h).2 rfl
  cases s with
  | nil => rfl
  | cons d r =>
    have hlead : [c].isPrefixOf (d :: r) = decide (d = c) := by
      rw [Bool.eq_iff_iff, List.isPrefixOf_iff_prefix, decide_eq_true_eq, List.cons_prefix_cons,
        and_iff_left List.nil_prefix, eq_comm]
    rw [Reads.afterOne, contains_oneOf (Nat.lt_trans h (by decide)), hfold, Text.dropLead?, hlead]
    simp only [foldLetter_eq_iff h]
    split <;> rfl

theorem afterOne_letters (read : Reads) (s : List Char) :
    (read.afterRun letters).afterOne letters s =
      if s.head?.any isLetter then read (s.dropWhile isLetter) else none := by
  cases s with
  | nil => rfl
  | cons c r =>
    rw [Reads.afterOne, Reads.afterRun, contains_letters, List.head?_cons, Option.any_some]
    by_cases hc : isLetter c = true
    · rw [if_pos hc, if_pos hc, List.dropWhile_cons_of_pos hc]
    · rw [if_neg hc, if_neg hc]

theorem groupOf_digits (s : List Char) :
    Reads.groupOf digits s =
      if s.head?.any Text.isDecimalDigit then
        some (s.takeWhile Text.isDecimalDigit, s.dropWhile Text.isDecimalDigit)
      else none := by
  have hdigits : digits.contains = Text.isDecimalDigit := funext contains_digits
  cases s with
  | nil => rfl
  | cons c r =>
    rw [Reads.groupOf, hdigits, List.head?_cons, Option.any_some]
    by_cases hc : Text.isDecimalDigit c = true
    · rw [if_pos hc, if_pos hc, List.takeWhile_cons_of_pos hc, List.dropWhile_cons_of_pos hc]
    · rw [if_neg hc, if_neg hc]

theorem dropWord?_cons (w : Char) (word s : List Char) :
    Text.dropWord? (w :: word) s = (Text.dropWord? [w] s).bind (Text.dropWord? word) := by
  cases s with
  | nil => rfl
  | cons c r =>
    rw [Text.dropWord?, Text.dropWord?]
    split <;> rfl

/-- A reference as the reader of references reads it. -/
def readReference : Reads :=
  .afterOne (oneOf 'F') <| .afterOne (oneOf 'I') <| .afterOne (oneOf 'X') <| .afterRun endings <|
    .afterOne (oneOf ' ') <| .afterOne letters <| .afterRun letters <| .afterOne (oneOf '-') <|
      .groupOf digits

/-- The steps of the reader. -/
theorem fixedIssue?_eq (s : List Char) :
    fixedIssue? s = (Text.dropWord? "fix".toList s).bind fun s =>
      (Text.dropLead? [' '] (s.dropWhile isFixEnding)).bind fun s =>
        if s.head?.any isLetter then
          (Text.dropLead? ['-'] (s.dropWhile isLetter)).bind fun s =>
            if s.head?.any Text.isDecimalDigit then
              some (s.takeWhile Text.isDecimalDigit, s.dropWhile Text.isDecimalDigit)
            else none
        else none := by
  have hguard {α : Type} (c : Bool) (next : Option α) :
      ((guard (c = true) : Option Unit).bind fun _ => next) = if c = true then next else none := by
    cases c <;> rfl
  simp only [fixedIssue?, Option.bind_eq_bind, Option.pure_def, hguard]

theorem readReference_eq (s : List Char) : readReference s = fixedIssue? s := by
  have hword : Text.dropWord? "fix".toList s =
      ((Text.dropWord? [Text.foldLetter 'F'] s).bind (Text.dropWord? [Text.foldLetter 'I'])).bind
        (Text.dropWord? [Text.foldLetter 'X']) := by
    rw [Option.bind_assoc]
    exact (dropWord?_cons 'f' ['i', 'x'] s).trans
      (congrArg _ (funext fun s => dropWord?_cons 'i' ['x'] s))
  rw [fixedIssue?_eq, hword, Option.bind_assoc, Option.bind_assoc, readReference,
    afterOne_letter (by decide)]
  refine Option.bind_congr fun s _ => ?_
  rw [afterOne_letter (by decide)]
  refine Option.bind_congr fun s _ => ?_
  rw [afterOne_letter (by decide)]
  refine Option.bind_congr fun s _ => ?_
  rw [Reads.afterRun, contains_endings, afterOne_sign (by decide)]
  refine Option.bind_congr fun s _ => ?_
  rw [afterOne_letters, afterOne_sign (by decide)]
  simp only [groupOf_digits]

theorem afterOne_eq_none {c d : Char} {read : Reads} {r : List Char} (hc : c.toNat < 65)
    (hd : d ≠ c) : read.afterOne (oneOf c) (d :: r) = none := by
  rw [afterOne_sign hc, Text.dropLead?, if_neg]
  · rfl
  · rw [List.isPrefixOf_iff_prefix, List.cons_prefix_cons]
    exact fun h => hd h.1.symm

theorem ne_of_isLetter {c : Char} (h : isLetter c = true) {d : Char} (hd : d.toNat < 65) :
    c ≠ d := by
  rintro rfl
  have hfold : Text.foldLetter c = c := (foldLetter_eq_iff hd).2 rfl
  simp only [isLetter, hfold, Bool.and_eq_true, decide_eq_true_eq, Char.le_def,
    UInt32.le_iff_toNat_le, Char.toNat_val, Char.reduceToNat] at h
  omega

theorem isLetter_of_isFixEnding {c : Char} (h : isFixEnding c = true) : isLetter c = true := by
  have hcases (d : Char) (hd : (d = 'e' || d = 'd' || d = 's') = true) :
      ('a' ≤ d && d ≤ 'z') = true := by
    simp only [Bool.or_eq_true, decide_eq_true_eq] at hd
    obtain (rfl | rfl) | rfl := hd <;> decide
  exact hcases _ h

/-- The pattern finds at a place what the reader of references reads there. -/
theorem finds_reference : Finds (reference.before fun ends _ => some ends) fixedIssue? := by
  have hstop {set : CharSet} (hset : ∀ c, set.contains c = true → isLetter c = true) {sign : Char}
      (hsign : sign.toNat < 65) {read : Reads} (c : Char) (r : List Char)
      (hc : set.contains c = true) : read.afterOne (oneOf sign) (c :: r) = none :=
    afterOne_eq_none hsign (ne_of_isLetter (hset c hc) hsign)
  have hendings (c : Char) (hc : endings.contains c = true) : isLetter c = true :=
    isLetter_of_isFixEnding (contains_endings ▸ hc)
  have hletters (c : Char) (hc : letters.contains c = true) : isLetter c = true :=
    contains_letters ▸ hc
  have hnumber : Finds _ (.afterOne (oneOf '-') (.groupOf digits)) := Finds.group.chars
  have hproject : Finds _ (.afterOne letters (.afterRun letters _)) :=
    hnumber.oneOrMore (hstop hletters (by decide))
  have hending : Finds _ (.afterRun endings (.afterOne (oneOf ' ') _)) :=
    hproject.chars.zeroOrMore (hstop hendings (by decide))
  have hword : Finds _ (.afterOne (oneOf 'F') (.afterOne (oneOf 'I') (.afterOne (oneOf 'X') _))) :=
    hending.chars.chars.chars
  rw [reference, Regex.before_cats, ← funext readReference_eq]
  exact hword

theorem loopsAdvance_reference : reference.loopsAdvance = true := by
  rw [reference, Regex.loopsAdvance_cats]
  rfl

end ReleaseGap.Message
