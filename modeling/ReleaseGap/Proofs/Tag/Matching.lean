import ReleaseGap.Proofs.Tag.Escaped

/-!
# Which tags are matched

A plugin's id decides first, and a rule decides only about the tags that the id does not match.  A
rule without a suffix decides about these as another id would.
-/
namespace ReleaseGap

open Pattern

/-- The pattern of the tags that a rule admits, if its suffix is a pattern. -/
def TagRule.pattern? (rule : TagRule) : Option Regex :=
  Regex.read? (TagForm.suffixPattern rule.base.toList rule.suffix.toList)

namespace TagMatcher

variable {id tag : String}

/-- What patterns say about a tag, the one of the id first and then the one of a rule. -/
def outcomeBy (plain : Option Regex) (custom : Option (Regex × VersionSource)) (tag : String) :
    TagMatch :=
  match plain.bind (·.markedText? tag.toList) with
  | some version => .version (String.ofList version)
  | none =>
    match custom with
    | none => .unmatched
    | some (r, source) =>
      match r.markedText? tag.toList with
      | some version => found source version
      | none => .unmatched

/-- A matcher says what the patterns of the id and of the rule say. -/
theorem matchTag_eq_outcomeBy (id tag : String) (rule : Option TagRule) :
    (ofRule id rule).matchTag tag =
      outcomeBy (Regex.read? (TagForm.suffixPattern id.toList []))
        (rule.bind fun r => r.pattern?.map (·, r.source)) tag := by
  have hplain : (ofRule id rule).plain.bind (·.version? tag.toList) =
      (Regex.read? (TagForm.suffixPattern id.toList [])).bind (·.markedText? tag.toList) := by
    have hsame := congrArg (Option.bind · fun version? => version? tag.toList)
      (TagForm.map_version?_plain? id.toList)
    rwa [Option.bind_map, Option.bind_map] at hsame
  rw [matchTag, hplain]
  unfold outcomeBy
  cases (Regex.read? (TagForm.suffixPattern id.toList [])).bind (·.markedText? tag.toList) with
  | some version => rfl
  | none =>
    cases rule with
    | none => rfl
    | some r =>
      have hform : (TagForm.ofRule? r).map TagForm.version? = r.pattern?.map Regex.markedText? :=
        TagForm.map_version?_ofRule? r
      have hcustom : (ofRule id (some r)).custom = (TagForm.ofRule? r).map (·, r.source) := rfl
      rw [hcustom, Option.bind_some]
      cases hpattern : r.pattern? with
      | none =>
        rw [hpattern, Option.map_none, Option.map_eq_none_iff] at hform
        rewrite [hform]
        rfl
      | some q =>
        rw [hpattern, Option.map_some] at hform
        obtain ⟨form, hform, hsame⟩ := Option.map_eq_some_iff.1 hform
        rewrite [hform]
        dsimp only [Option.map_some]
        rewrite [hsame]
        rfl

/-! ### The law of a base -/

theorem version?_eq_none {base : String} (h : ∀ version, ¬ Marks base.toList tag.toList version) :
    (TagForm.based base.toList).version? tag.toList = none :=
  Option.eq_none_iff_forall_ne_some.2 fun version hversion =>
    h version (TagForm.version?_based_eq_some_iff.1 hversion)

theorem plain_ofRule (hread : (Regex.read? (TagForm.suffixPattern id.toList [])).isSome)
    (rule : Option TagRule) : (ofRule id rule).plain = some (.based id.toList) :=
  TagForm.plain?_of_isSome hread

theorem matchTag_of_marks (hread : (Regex.read? (TagForm.suffixPattern id.toList [])).isSome)
    {version : String} (h : Marks id.toList tag.toList version.toList) (rule : Option TagRule) :
    (ofRule id rule).matchTag tag = .version version := by
  have hversion : (TagForm.based id.toList).version? tag.toList = some version.toList :=
    TagForm.version?_based_eq_some_iff.2 h
  rw [matchTag, plain_ofRule hread, Option.bind_some, hversion]
  exact congrArg TagMatch.version String.ofList_toList

theorem matchTag_of_no_rule (hread : (Regex.read? (TagForm.suffixPattern id.toList [])).isSome)
    (h : ∀ version, ¬ Marks id.toList tag.toList version) :
    (ofRule id none).matchTag tag = .unmatched := by
  rw [matchTag, plain_ofRule hread, Option.bind_some, version?_eq_none h]
  rfl

/-- A rule without a suffix takes the place of the id for the tags that the id does not match. -/
theorem matchTag_of_no_suffix {rule : TagRule}
    (hread : (Regex.read? (TagForm.suffixPattern id.toList [])).isSome)
    (hrule : rule.pattern?.isSome) (hsuffix : rule.suffix = "")
    (h : ∀ version, ¬ Marks id.toList tag.toList version) :
    (ofRule id (some rule)).matchTag tag =
      match (TagForm.based rule.base.toList).version? tag.toList with
      | some version => found rule.source version
      | none => .unmatched := by
  have hbase : TagForm.plain? rule.base.toList = some (.based rule.base.toList) := by
    rw [TagRule.pattern?, hsuffix] at hrule
    exact TagForm.plain?_of_isSome hrule
  have hcustom : (ofRule id (some rule)).custom = some (.based rule.base.toList, rule.source) := by
    simp [ofRule, TagForm.ofRule?, hsuffix, hbase]
  unfold matchTag
  rewrite [plain_ofRule hread, Option.bind_some, version?_eq_none h, hcustom]
  rfl

/-- A matcher says what the patterns of the id and of the rule say.  If they are read, a tag that
the id marks is matched by the id, whatever the rule.  Any other tag is matched by a rule only, and
one without a suffix marks tags as an id does. -/
theorem matchTag_decides (id tag : String) (rule : Option TagRule) :
    let outcome := (ofRule id rule).matchTag tag
    let plain := Regex.read? (TagForm.suffixPattern id.toList [])
    outcome = outcomeBy plain (rule.bind fun r => r.pattern?.map (·, r.source)) tag ∧
    (plain.isSome →
      (∀ version : String, Marks id.toList tag.toList version.toList →
        outcome = .version version) ∧
      ((∀ version, ¬ Marks id.toList tag.toList version) →
        (rule = none → outcome = .unmatched) ∧
        ∀ r, rule = some r → r.suffix = "" → r.pattern?.isSome →
          (∀ version : String, Marks r.base.toList tag.toList version.toList →
            (r.source = .asTagged → outcome = .version version) ∧
            ∀ directory, r.source = .descriptor directory → outcome = .lookUp version directory) ∧
          ((∀ version, ¬ Marks r.base.toList tag.toList version) → outcome = .unmatched))) := by
  refine ⟨matchTag_eq_outcomeBy id tag rule, fun hread =>
    ⟨fun version h => matchTag_of_marks hread h rule, fun hid => ⟨?_, ?_⟩⟩⟩
  · rintro rfl
    exact matchTag_of_no_rule hread hid
  · rintro r rfl hsuffix hrule
    rw [matchTag_of_no_suffix hread hrule hsuffix hid]
    refine ⟨fun version hversion => ?_, fun hnone => by rw [version?_eq_none hnone]⟩
    rw [TagForm.version?_based_eq_some_iff.2 hversion]
    constructor
    · intro hsource
      simp [found, hsource]
    · intro directory hsource
      simp [found, hsource]

/-- A rule whose tags begin with a number. -/
def sampleRule : TagRule := .ofText "12|plugin"

theorem matchTag_decides_sample :
    Marks "a.b".toList "a.b-1.0".toList "1.0".toList ∧
    (ofRule "a.b" (some sampleRule)).matchTag "a.b-1.0" = .version "1.0" ∧
    (∀ version, ¬ Marks "a.b".toList "12-3.0".toList version) ∧
    Marks sampleRule.base.toList "12-3.0".toList "3.0".toList ∧
    (ofRule "a.b" (some sampleRule)).matchTag "12-3.0" = .lookUp "3.0" "plugin" ∧
    (ofRule "a.b" none).matchTag "12-3.0" = .unmatched ∧
    ∃ plain custom, Regex.read? (TagForm.suffixPattern "a.b".toList []) = some plain ∧
      sampleRule.pattern? = some custom ∧
      (ofRule "a.b" (some sampleRule)).matchTag "12-3.0" =
        outcomeBy plain (some (custom, .descriptor "plugin")) "12-3.0" := by
  have hid : Marks "a.b".toList "a.b-1.0".toList "1.0".toList :=
    TagForm.version?_based_eq_some_iff.1 (by decide +kernel)
  have hother : ∀ version, ¬ Marks "a.b".toList "12-3.0".toList version := by
    intro version h
    have hnone : (TagForm.based "a.b".toList).version? "12-3.0".toList = none := by decide +kernel
    rw [TagForm.version?_based_eq_some_iff.2 h] at hnone
    cases hnone
  have hmarks : Marks sampleRule.base.toList "12-3.0".toList "3.0".toList :=
    TagForm.version?_based_eq_some_iff.1 (by decide +kernel)
  have hplain : Regex.read? (TagForm.suffixPattern "a.b".toList []) =
      some (TagForm.plain "a.b".toList) := TagForm.read?_suffixPattern_of_length_le (by decide)
  have hcustom : sampleRule.pattern? = some (TagForm.plain sampleRule.base.toList) :=
    TagForm.read?_suffixPattern_of_length_le (by decide)
  have hread : (Regex.read? (TagForm.suffixPattern "a.b".toList [])).isSome := by
    rw [hplain]
    rfl
  have hrule : sampleRule.pattern?.isSome := by
    rw [hcustom]
    rfl
  have hlaw := matchTag_decides "a.b" "12-3.0" (some sampleRule)
  have hsource : sampleRule.source = .descriptor "plugin" := by decide +kernel
  refine ⟨hid, ((matchTag_decides "a.b" "a.b-1.0" (some sampleRule)).2 hread).1 "1.0" hid, hother,
    hmarks, (((hlaw.2 hread).2 hother).2 sampleRule rfl (by decide +kernel) hrule).1 "3.0" hmarks
      |>.2 "plugin" hsource,
    (((matchTag_decides "a.b" "12-3.0" none).2 hread).2 hother).1 rfl, _, _, hplain, hcustom, ?_⟩
  rw [hlaw.1, Option.bind_some, hplain, hcustom, hsource]
  rfl

end TagMatcher

end ReleaseGap
