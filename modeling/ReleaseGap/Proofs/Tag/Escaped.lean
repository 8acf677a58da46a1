import ReleaseGap.Proofs.Pattern.Reading
import ReleaseGap.Proofs.Pattern.Weight
import ReleaseGap.Proofs.Tag.Marked

/-!
# The pattern of a base

A base has a form if and only if its pattern is read, and the form is as good as the pattern: the
pattern has the base as a text that stands for itself, and its group holds the version of a tag.
-/
namespace ReleaseGap

open Pattern

namespace TagForm

theorem contains_versionChars (c : Char) : versionChars.contains c = isVersionChar c := by
  rw [Bool.eq_iff_iff]
  simp only [versionChars, CharSet.contains, isVersionChar, List.any_cons, List.any_nil,
    Bool.or_false, Bool.or_eq_true, Bool.and_eq_true, decide_eq_true_eq, Char.le_def,
    UInt32.le_iff_toNat_le, Char.toNat_val, ← Char.toNat_inj, Char.reduceToNat]
  omega

/-! ### Reading -/

theorem suffixPattern_nil (base : List Char) :
    suffixPattern base [] = '^' :: '(' :: '?' :: ':' ::
      (quoted base ++ '-' :: '?' :: ')' :: '?' :: '(' :: "[0-9._]+)$".toList) := by
  have hpattern : suffixPattern base [] =
      "^(?:".toList ++ quoted base ++ "-?)?([0-9._]+".toList ++ [] ++ ")$".toList := rfl
  rw [hpattern, List.append_assoc, List.append_assoc, List.append_assoc]
  rfl

theorem bracket?_versionChars :
    bracket? (2 * "0-9._]+)$".toList.length + 2) {} "0-9._]+)$".toList =
      some (⟨versionChars, 2⟩, "+)$".toList) := by
  have hbracket : bracket? (2 * "0-9._]+)$".toList.length + 2) {} "0-9._]+)$".toList =
      some (⟨.ofRanges [(95, 95), (46, 46), (48, 57)], 2⟩, "+)$".toList) := rfl
  have hranges : CharSet.ofRanges [(95, 95), (46, 46), (48, 57)] = versionChars := by
    simp [CharSet.ofRanges, List.mergeSort, CharSet.join, versionChars]
  rw [hbracket, hranges]

/-- The base with an optional hyphen, as it is read. -/
def leadParts (base : List Char) : List Part :=
  base.map (fun c => ⟨.chars (.single c), 0⟩) ++ [⟨optionalHyphen, 1⟩]

theorem readGroup?_lead (base rest : List Char) (fuel : Nat) :
    readGroup? (base.length + fuel + 4) {} ⟨quoted base ++ '-' :: '?' :: ')' :: rest, 0, []⟩ =
      some (Part.ofRow ((leadParts base).map .part).reverse, ⟨rest, 0, []⟩) := by
  have hparts : ((leadParts base).map Item.part).reverse = .part ⟨optionalHyphen, 1⟩ ::
      ((base.map fun c => .part ⟨.chars (.single c), 0⟩).reverse ++ []) := by
    rw [leadParts, List.map_append, List.reverse_append, List.map_map, List.append_nil]
    rfl
  have hsign : ('?', 0, some 1) ∈ signs := by decide
  refine readGroup?_of_closed ?_
  rw [Nat.add_assoc, readBranches?_quoted, readBranches?_char (by decide),
    readBranches?_sign hsign rfl, readBranches?_close, hparts]
  rfl

theorem readGroup?_versionChars (fuel : Nat) :
    readGroup? (fuel + 4) {} ⟨"[0-9._]+)$".toList, 1, []⟩ =
      some (⟨.repeated true 1 none (.chars versionChars), 3⟩, ⟨['$'], 1, []⟩) := by
  have hbracket : readBranches? (fuel + 3) {} [] [] ⟨"[0-9._]+)$".toList, 1, []⟩ =
      readBranches? (fuel + 2) {} [] [.part ⟨.chars versionChars, 2⟩] ⟨['+', ')', '$'], 1, []⟩ :=
    readBranches?_bracket bracket?_versionChars
  have hsign : ('+', 1, none) ∈ signs := by decide
  refine readGroup?_of_closed ?_
  rw [hbracket, readBranches?_sign hsign rfl, readBranches?_close]
  rfl

/-- The parts of the pattern of a base, as it is read. -/
def plainParts (base : List Char) : List Part :=
  [⟨.look .textStart, 0⟩,
    ⟨.times true 0 (some 1) (Part.ofRow ((leadParts base).map .part).reverse).regex,
      (Part.ofRow ((leadParts base).map .part).reverse).depth + 2⟩,
    ⟨.marked (.repeated true 1 none (.chars versionChars)), 4⟩, ⟨.look .textEnd, 0⟩]

theorem readBranches?_suffixPattern (base : List Char) (fuel : Nat) :
    readBranches? (base.length + fuel + 8) {} [] [] ⟨suffixPattern base [], 0, []⟩ =
      some (Part.ofRow ((plainParts base).map .part).reverse, ⟨[], 1, []⟩) := by
  have hlead : readGroup? (base.length + fuel + 6) {} _ = _ :=
    readGroup?_lead base ('?' :: '(' :: "[0-9._]+)$".toList) (fuel + 2)
  have hsign : ('?', 0, some 1) ∈ signs := by decide
  have hopen : opening? {} "[0-9._]+)$".toList = some (.marked none, "[0-9._]+)$".toList) := rfl
  rw [suffixPattern_nil, readBranches?_textStart, readBranches?_plainGroup hlead,
    readBranches?_sign hsign rfl, readBranches?_firstGroup hopen (readGroup?_versionChars _),
    readBranches?_textEnd, readBranches?_nil]
  rfl

theorem regex_ofRow_plainParts (base : List Char) :
    (Part.ofRow ((plainParts base).map .part).reverse).regex = plain base := by
  have hlead : (Part.ofRow ((leadParts base).map .part).reverse).regex = lead base := by
    rw [Part.regex_ofRow, leadParts, List.map_append, List.map_map]
    rfl
  have hsolid : (lead base).isOnlyEmpty = false := by
    rw [lead, Regex.isOnlyEmpty_cats]
    simp [optionalHyphen, Regex.isOnlyEmpty]
  have htimes : Regex.times true 0 (some 1) (lead base) =
      .repeated true 0 (some 1) (lead base) := by
    simp [Regex.times, hsolid]
  rw [Part.regex_ofRow, plainParts, hlead, htimes]
  rfl

theorem depth_ofRow_plainParts_le (base : List Char) :
    (Part.ofRow ((plainParts base).map .part).reverse).depth ≤ 5 := by
  have hlead : (Part.ofRow ((leadParts base).map .part).reverse).depth ≤ 2 := by
    refine Part.depth_ofRow_le fun p hp => ?_
    rcases List.mem_append.1 hp with hp | hp
    · obtain ⟨c, -, rfl⟩ := List.mem_map.1 hp
      exact Nat.zero_le 1
    · obtain rfl := List.mem_singleton.1 hp
      exact Nat.le_refl 1
  refine Part.depth_ofRow_le ?_
  simp only [plainParts, List.mem_cons, List.not_mem_nil, or_false]
  rintro p (rfl | rfl | rfl | rfl)
  · exact Nat.zero_le 4
  · exact Nat.add_le_add_right hlead 2
  · exact Nat.le_refl 4
  · exact Nat.zero_le 4

theorem length_le_length_suffixPattern (base : List Char) :
    base.length + 8 ≤ 2 * (suffixPattern base []).length + 2 := by
  have hquoted := length_le_length_quoted base
  simp only [suffixPattern_nil, List.length_cons, List.length_append]
  generalize (quoted base).length = quotedLength at hquoted
  generalize "[0-9._]+)$".toList.length = numberLength
  omega

/-- The pattern of a base is read, unless the base is so long that the pattern weighs too much. -/
theorem read?_suffixPattern (base : List Char) :
    Regex.read? (suffixPattern base []) =
      if (plain base).weight ≤ Regex.weightLimit then some (plain base) else none := by
  obtain ⟨fuel, hfuel⟩ := Nat.exists_eq_add_of_le (length_le_length_suffixPattern base)
  have hread : readBranches? (2 * (suffixPattern base []).length + 2) {} [] [] _ = _ :=
    (hfuel.trans (Nat.add_right_comm _ 8 fuel)) ▸ readBranches?_suffixPattern base fuel
  have hdepth : (Part.ofRow ((plainParts base).map .part).reverse).depth ≤ depthLimit :=
    Nat.le_trans (depth_ofRow_plainParts_le base) (by decide)
  rw [Regex.read?, hread]
  simp only [Option.bind_eq_bind, Option.bind_some, regex_ofRow_plainParts, hdepth, true_and, guard]
  split <;> rfl

theorem plain?_eq (base : List Char) :
    plain? base = (Regex.read? (suffixPattern base [])).map fun _ => .based base := by
  rw [plain?, read?_suffixPattern]
  split <;> rfl

theorem plain?_of_isSome {base : List Char}
    (h : (Regex.read? (suffixPattern base [])).isSome = true) :
    plain? base = some (.based base) := by
  obtain ⟨r, hr⟩ := Option.isSome_iff_exists.1 h
  rw [plain?_eq, hr, Option.map_some]

theorem weight_lead_le (base : List Char) : (lead base).weight ≤ 128 * base.length + 112 := by
  rw [lead, Regex.weight_cats, List.foldr_append]
  induction base with
  | nil => exact Nat.le_refl 112
  | cons c base ih =>
    have hc : (Regex.chars (.single c)).weight ≤ 128 := Regex.setWeight_single_le c
    rw [List.map_cons, List.foldr_cons, List.length_cons, Nat.mul_succ, Nat.add_comm (128 * _) 128,
      Nat.add_assoc]
    exact Nat.add_le_add hc ih

theorem setWeight_versionChars : Regex.setWeight versionChars = 88 := by
  decide

theorem weight_plain (base : List Char) : (plain base).weight = (lead base).weight + 376 := by
  simp only [plain, numbered, Regex.weight, setWeight_versionChars]
  generalize (lead base).weight = weight
  omega

theorem read?_suffixPattern_of_length_le {base : List Char} (h : base.length ≤ 81000) :
    Regex.read? (suffixPattern base []) = some (plain base) := by
  have hweight : (plain base).weight ≤ 128 * 81000 + 488 := by
    rw [weight_plain]
    have hlead := Nat.le_trans (weight_lead_le base)
      (Nat.add_le_add_right (Nat.mul_le_mul_left 128 h) 112)
    exact Nat.add_le_add_right hlead 376
  rw [read?_suffixPattern, if_pos (Nat.le_trans hweight (by decide))]

/-! ### Finding -/

theorem loopsAdvance_plain (base : List Char) : (plain base).loopsAdvance = true := by
  simp [plain, lead, numbered, optionalHyphen, Regex.loopsAdvance, Regex.loopsAdvance_cats,
    Regex.canBeEmpty]

/-- The ends of a text that ends with a version. -/
def versionEnds (length : Nat) (version : List Char) : Ends :=
  ⟨some (length - version.length), some length⟩

theorem before_numbered (ends : Ends) (place : Place) :
    numbered.before (fun ends _ => some ends) ends place =
      (number? place.after).map (versionEnds (place.offset + place.after.length)) := by
  let rest : Rest := fun ends place =>
    if Look.textEnd.holds place then some ⟨ends.start, some place.offset⟩ else none
  have hrest : ∀ ends place, place.after ≠ [] → rest ends place = none := by
    intro ends place hafter
    simp [rest, Look.holds, hafter]
  have hnumbered : numbered.before (fun ends _ => some ends) ends place =
      (Regex.repeated true 1 none (.chars versionChars)).before rest
        { ends with start := some place.offset } place := rfl
  have hchars : place.after.all versionChars.contains = place.after.all isVersionChar := by
    rw [funext contains_versionChars]
  rw [hnumbered, Regex.before_some_chars hrest, hchars, number?]
  by_cases hversion : place.after ≠ [] ∧ place.after.all isVersionChar = true
  · rw [if_pos hversion, if_pos (by simpa using hversion)]
    simp [rest, Look.holds, Place.behind, versionEnds]
  · rw [if_neg hversion, if_neg (by simpa using hversion)]
    rfl

/-- The version number behind an optional hyphen. -/
def numberBehindHyphen? (s : List Char) : Option (List Char) :=
  match s with
  | '-' :: r => number? r
  | r => number? r

theorem numberAfter?_eq_bind (base tag : List Char) :
    numberAfter? base tag = (Text.dropLead? base tag).bind numberBehindHyphen? := by
  rw [numberAfter?]
  split <;> simp_all [numberBehindHyphen?]

theorem before_optionalHyphen (ends : Ends) (place : Place) :
    optionalHyphen.before (numbered.before fun ends _ => some ends) ends place =
      (numberBehindHyphen? place.after).map
        (versionEnds (place.offset + place.after.length)) := by
  rw [optionalHyphen, Regex.before_optional, before_numbered]
  cases hafter : place.after with
  | nil => rw [Regex.before_chars_of_nil hafter]; rfl
  | cons c more =>
    rw [Regex.before_chars_of_cons hafter]
    by_cases hc : c = '-'
    · subst hc
      have hnone : number? ('-' :: more) = none := by simp [number?, isVersionChar]
      rw [if_pos (by decide), before_numbered, hnone, Option.map_none, Option.or_none]
      simp [numberBehindHyphen?, Place.past, Nat.add_comm, Nat.add_left_comm]
    · rw [if_neg (mt contains_single.1 hc), Option.none_or, numberBehindHyphen?]
      simp [hc]

/-- The pattern of a base finds the version of a tag. -/
theorem found?_plain (base tag : List Char) :
    (plain base).found? ⟨none, tag, 0⟩ =
      ((TagForm.based base).version? tag).map (versionEnds tag.length) := by
  have hfound : (plain base).found? ⟨none, tag, 0⟩ =
      ((lead base).before (numbered.before fun ends _ => some ends) ⟨none, none⟩
        ⟨none, tag, 0⟩).or
      (numbered.before (fun ends _ => some ends) ⟨none, none⟩ ⟨none, tag, 0⟩) := rfl
  have hlead : (lead base).before (numbered.before fun ends _ => some ends) ⟨none, none⟩
      ⟨none, tag, 0⟩ = (numberAfter? base tag).map (versionEnds tag.length) := by
    rw [lead, Regex.before_cats, List.foldr_append, Regex.before_text, numberAfter?_eq_bind]
    cases hr : Text.dropLead? base tag with
    | none => rfl
    | some r =>
      have hlength : tag.length = 0 + base.length + r.length := by
        rw [Text.dropLead?_eq_some_iff.1 hr, List.length_append, Nat.zero_add]
      rw [hlength]
      exact before_optionalHyphen ⟨none, none⟩ (Place.behind ⟨none, tag, 0⟩ base r)
  have hnumber : numbered.before (fun ends _ => some ends) ⟨none, none⟩ ⟨none, tag, 0⟩ =
      (number? tag).map (versionEnds tag.length) := by
    rw [before_numbered, Nat.zero_add]
  rw [hfound, hlead, hnumber, ← Option.map_or, version?]

theorem isSuffix_of_version? {base tag version : List Char}
    (h : (TagForm.based base).version? tag = some version) : version <:+ tag := by
  rcases version?_based_eq_some_iff.1 h with ⟨-, rfl | rfl⟩ | ⟨-, -, rfl⟩
  · exact List.suffix_append base version
  · exact (List.suffix_cons '-' version).trans (List.suffix_append base _)
  · exact List.suffix_refl tag

/-- The group of the pattern of a base holds the version of a tag. -/
theorem markedText?_plain (base tag : List Char) :
    (plain base).markedText? tag = (TagForm.based base).version? tag := by
  rw [Regex.markedText?_of_isAnchored (loopsAdvance_plain base)
    (Regex.isAnchored_cat_textStart _), found?_plain]
  cases hversion : (TagForm.based base).version? tag with
  | none => rfl
  | some version =>
    obtain ⟨first, rfl⟩ := isSuffix_of_version? hversion
    have hstart : (first ++ version).length - version.length = first.length := by simp
    simp only [versionEnds, Option.map_some, Option.bind_some, hstart, List.take_length,
      List.drop_left]

/-- The form of a base says what its pattern says. -/
theorem map_version?_plain? (base : List Char) :
    (plain? base).map version? = (Regex.read? (suffixPattern base [])).map Regex.markedText? := by
  rw [plain?, read?_suffixPattern]
  split
  · exact congrArg some (funext fun tag => (markedText?_plain base tag).symm)
  · rfl

/-- The form that a rule gives says what its pattern says. -/
theorem map_version?_ofRule? (rule : TagRule) :
    (ofRule? rule).map version? =
      (Regex.read? (suffixPattern rule.base.toList rule.suffix.toList)).map Regex.markedText? := by
  rw [ofRule?]
  split
  · rename_i hsuffix
    have hnil : rule.suffix.toList = [] := by simpa using hsuffix
    rw [hnil, map_version?_plain?]
  · rw [Option.map_map]
    rfl

end TagForm

end ReleaseGap
