import ReleaseGap.Proofs.Github.LatestRelease
import ReleaseGap.Proofs.Outside.Possible
import ReleaseGap.Proofs.Run.Survey

/-!
# Versions with hyphens

A hyphen gets into a version only by the operator: through a tag rule that has a suffix, or one that
sends for the version to a project descriptor.  Tags that are matched otherwise give version
numbers, and those of svn are divided at their last hyphen.
-/
namespace ReleaseGap

/-- Whether a version has no hyphen in it. -/
def IsPlainVersion (version : String) : Prop := '-' ∉ version.toList

instance (version : String) : Decidable (IsPlainVersion version) :=
  inferInstanceAs (Decidable (¬ '-' ∈ version.toList))

theorem isPlainVersion_unknownVersion : IsPlainVersion unknownVersion := by decide

theorem isPlainVersion_of_isVersionNumber {version : String}
    (h : IsVersionNumber version.toList) : IsPlainVersion version := by
  intro hmem
  exact absurd (h.2 '-' hmem) (by decide)

theorem SvnTag.isPlainVersion_of_parts? {tag : SvnTag} {id version : String}
    (h : tag.parts? = some (id, version)) : IsPlainVersion version := by
  obtain ⟨⟨front, back⟩, hsplit, hback⟩ := Option.map_eq_some_iff.1 h
  obtain ⟨-, rfl⟩ := Prod.mk.inj hback
  rw [IsPlainVersion, String.toList_ofList]
  exact (Text.splitLast?_eq_some_iff.1 hsplit).2

namespace SvnIndex

/-- Whether no version of an index has a hyphen in it. -/
def HasPlainVersions (index : SvnIndex) : Prop :=
  ∀ id release, index.get? id = some release → IsPlainVersion release.version

theorem hasPlainVersions_add {index : SvnIndex} (h : index.HasPlainVersions) (tag : SvnTag) :
    (index.add tag).HasPlainVersions := by
  rw [add]
  cases hparts : tag.parts? with
  | none => exact h
  | some parts =>
    obtain ⟨id, version⟩ := parts
    simp only
    split
    · intro id' release hrelease
      rw [get?, Keyed.find?_insert] at hrelease
      split at hrelease
      · cases hrelease
        exact SvnTag.isPlainVersion_of_parts? hparts
      · exact h _ _ hrelease
    · exact h

theorem hasPlainVersions_ofTags (tags : List SvnTag) : (ofTags tags).HasPlainVersions := by
  suffices ∀ index : SvnIndex, index.HasPlainVersions → (tags.foldl add index).HasPlainVersions from
    this {} fun _ _ h => by cases h
  induction tags with
  | nil => exact fun _ h => h
  | cons tag tags ih => exact fun index h => ih _ (hasPlainVersions_add h tag)

theorem isPlainVersion_of_lookup? {index : SvnIndex} (h : index.HasPlainVersions)
    {id repository : String} {release : SvnRelease}
    (hrelease : index.lookup? id repository = some release) : IsPlainVersion release.version := by
  simp only [SvnIndex.lookup?, Option.or_eq_some_iff] at hrelease
  rcases hrelease with hid | ⟨-, hrepository | ⟨-, hplugin⟩⟩
  · exact h _ _ hid
  · exact h _ _ hrepository
  · exact h _ _ hplugin

end SvnIndex

/-- Whether a rule may give versions with hyphens in them. -/
def TagRule.AdmitsHyphens (rule : TagRule) : Prop :=
  rule.suffix ≠ "" ∨ ∃ directory, rule.source = .descriptor directory

/-- Whether a tag says that a plugin has a version without hyphens, or nothing. -/
def TagMatch.IsPlain : TagMatch → Prop
  | .version v => IsPlainVersion v
  | .lookUp _ _ => False
  | .unmatched => True

theorem TagForm.isPlainVersion_of_plain? {base tag v : List Char} {form : TagForm}
    (hform : plain? base = some form) (h : form.version? tag = some v) :
    IsPlainVersion (String.ofList v) := by
  rw [plain?] at hform
  split at hform
  · obtain rfl := Option.some.inj hform
    exact isPlainVersion_of_isVersionNumber
      (by simpa using isVersionNumber_of_marks (version?_based_eq_some_iff.1 h))
  · cases hform

namespace TagMatcher

variable {id : String} {rule : Option TagRule}

theorem exists_base_of_custom (h : ∀ r ∈ rule, ¬ r.AdmitsHyphens) {form : TagForm}
    {source : VersionSource} (hcustom : (ofRule id rule).custom = some (form, source)) :
    source = .asTagged ∧ ∃ base, TagForm.plain? base = some form := by
  obtain ⟨r, hrule, hr⟩ := Option.bind_eq_some_iff.1 hcustom
  obtain ⟨form', hform, hpair⟩ := Option.map_eq_some_iff.1 hr
  obtain ⟨rfl, rfl⟩ := Prod.mk.inj hpair
  obtain ⟨hsuffix, hsource⟩ := not_or.1 (h r hrule)
  constructor
  · cases hr : r.source with
    | asTagged => rfl
    | descriptor directory => exact absurd ⟨directory, hr⟩ hsource
  · exact ⟨r.base.toList, by simpa [TagForm.ofRule?, not_not.1 hsuffix] using hform⟩

theorem isPlain_matchTag_ofRule (h : ∀ r ∈ rule, ¬ r.AdmitsHyphens) (tag : String) :
    ((ofRule id rule).matchTag tag).IsPlain := by
  rw [matchTag]
  cases hown : (ofRule id rule).plain.bind (·.version? tag.toList) with
  | some v =>
    obtain ⟨form, hform, hv⟩ := Option.bind_eq_some_iff.1 hown
    exact TagForm.isPlainVersion_of_plain? hform hv
  | none =>
    cases hcustom : (ofRule id rule).custom with
    | none => trivial
    | some custom =>
      obtain ⟨form, source⟩ := custom
      obtain ⟨rfl, base, hform⟩ := exists_base_of_custom h hcustom
      dsimp only
      cases hv : form.version? tag.toList with
      | some v => exact TagForm.isPlainVersion_of_plain? hform hv
      | none => trivial

end TagMatcher

namespace Github.Backend

variable {b : Backend}

theorem isPlainVersion_of_versionOf {m : TagMatcher} {repository version : String} {tag : Tag}
    (hm : (m.matchTag tag.name).IsPlain)
    (h : (b.versionOf m repository tag).CanGive (some version)) : IsPlainVersion version := by
  rw [versionOf] at h
  cases hmatch : m.matchTag tag.name with
  | version v =>
    rw [hmatch] at hm h
    obtain rfl := Option.some.inj (Session.canGive_pure_iff.1 h)
    exact hm
  | lookUp tagged directory =>
    rw [hmatch] at hm
    exact hm.elim
  | unmatched =>
    rw [hmatch] at h
    cases Session.canGive_pure_iff.1 h

theorem isPlainVersion_of_candidates {m : TagMatcher} {repository : String} {tags : List Tag}
    {found : List (String × Tag)} (hm : ∀ tag, (m.matchTag tag).IsPlain)
    (h : (b.candidates m repository tags).CanGive found) : ∀ c ∈ found, IsPlainVersion c.1 := by
  induction tags generalizing found with
  | nil =>
    obtain rfl := Session.canGive_pure_iff.1 h
    simp
  | cons tag tags ih =>
    rw [candidates] at h
    obtain ⟨version, hversion, h⟩ := Session.exists_canGive_of_bind h
    obtain ⟨others, hothers, rfl⟩ := Session.exists_canGive_of_bind_pure h
    intro c hc
    rcases List.mem_append.1 hc with hc | hc
    · obtain ⟨v, rfl, rfl⟩ := Option.map_eq_some_iff.1 (Option.mem_toList.1 hc)
      exact isPlainVersion_of_versionOf (hm tag.name) hversion
    · exact ih hothers c hc

theorem isPlainVersion_of_latestRelease {plugin : Plugin} {release : Release}
    (hrule : ∀ text, b.tagRules.text? plugin.id = some text →
      ¬ (TagRule.ofText text).AdmitsHyphens)
    (h : (b.latestRelease plugin).CanGive (some release)) : IsPlainVersion release.version := by
  have hm : ∀ tag, ((b.matcher plugin.id).matchTag tag).IsPlain := by
    refine TagMatcher.isPlain_matchTag_ofRule fun r hr => ?_
    obtain ⟨text, htext, rfl⟩ := Option.map_eq_some_iff.1 hr
    exact hrule text htext
  rw [latestRelease] at h
  obtain ⟨_ | tags, -, h⟩ := Session.exists_canGive_of_bind h
  · cases Session.canGive_pure_iff.1 h
  · obtain ⟨found, hfound, h⟩ := Session.exists_canGive_of_bind_pure h
    obtain ⟨⟨v, t⟩, hlatest, rfl⟩ := Option.map_eq_some_iff.1 h.symm
    exact isPlainVersion_of_candidates hm hfound _ (Release.mem_of_latest? hlatest)

end Github.Backend

/-- Whether a plugin has its tags on the git host, and a rule that may give versions with hyphens in
them. -/
def Plugin.AdmitsHyphens (plugin : Plugin) (tagRules : Overrides.Table) : Prop :=
  plugin.kind = .hostedGit ∧ ∃ text, tagRules.text? plugin.id = some text ∧
    (TagRule.ofText text).AdmitsHyphens

theorem Plugin.not_admitsHyphens {plugin : Plugin} {tagRules : Overrides.Table}
    (h : tagRules.text? plugin.id = none) : ¬ plugin.AdmitsHyphens tagRules := by
  rintro ⟨-, text, htext, -⟩
  rw [h] at htext
  cases htext

theorem Svn.Backend.hasPlainVersions_of_connect {settings : Settings.Svn} {b : Backend}
    (h : (connect settings).CanGive b) : b.index.HasPlainVersions := by
  rw [connect] at h
  obtain ⟨e | tags, -, h⟩ := Session.exists_canGive_of_bind h
  · obtain rfl := Session.canGive_pure_iff.1 h
    exact fun _ _ hget => by cases hget
  · obtain rfl := Session.canGive_pure_iff.1 h
    exact SvnIndex.hasPlainVersions_ofTags tags

namespace Run

variable {run : Run} {plugin : Plugin} {version : String}

/-- Whether a run finds a plugin at a version in some world. -/
def CanResolve (run : Run) (plugin : Plugin) (version : String) : Prop :=
  ∃ found, (run.collectedFor plugin).CanGive found ∧ found.2.version = version

theorem fst_of_collectedFor {found : Plugin × Collected}
    (h : (run.collectedFor plugin).CanGive found) : found.1 = plugin := by
  rw [collectedFor] at h
  obtain ⟨answer, -, rfl⟩ := Session.exists_canGive_of_bind_pure h
  rfl

theorem isPlainVersion_of_latestRelease (hindex : run.svn.index.HasPlainVersions)
    (hplugin : ¬ plugin.AdmitsHyphens run.github.tagRules) {release : Release}
    (h : ((run.sourceOf plugin).latestRelease plugin).CanGive (some release)) :
    IsPlainVersion release.version := by
  rw [sourceOf] at h
  cases hkind : plugin.kind with
  | hostedGit =>
    rw [hkind] at h
    refine Github.Backend.isPlainVersion_of_latestRelease (fun text htext hrule => ?_) h
    exact hplugin ⟨hkind, text, htext, hrule⟩
  | legacySvn =>
    rw [hkind] at h
    obtain ⟨found, hfound, rfl⟩ := Option.map_eq_some_iff.1 (Session.canGive_pure_iff.1 h).symm
    exact SvnIndex.isPlainVersion_of_lookup? hindex hfound

/-- Only a rule gives a version with a hyphen in it. -/
theorem isPlainVersion_of_canResolve (hindex : run.svn.index.HasPlainVersions)
    (hplugin : ¬ plugin.AdmitsHyphens run.github.tagRules) (h : run.CanResolve plugin version) :
    IsPlainVersion version := by
  obtain ⟨found, hfound, rfl⟩ := h
  rw [collectedFor] at hfound
  obtain ⟨answer, hanswer, rfl⟩ := Session.exists_canGive_of_bind_pure hfound
  rw [Source.answer] at hanswer
  obtain ⟨_ | release, hrelease, hanswer⟩ := Session.exists_canGive_of_bind hanswer
  · obtain rfl := Session.canGive_pure_iff.1 hanswer
    exact isPlainVersion_unknownVersion
  · obtain ⟨revisions, -, rfl⟩ := Session.exists_canGive_of_bind_pure hanswer
    exact isPlainVersion_of_latestRelease hindex hplugin hrelease

end Run
end ReleaseGap
