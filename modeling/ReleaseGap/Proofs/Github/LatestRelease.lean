import ReleaseGap.Github.Backend
import ReleaseGap.Proofs.Tag.Escaped
import ReleaseGap.Proofs.Tag.Latest
import ReleaseGap.Proofs.Version.Numbers

/-!
# The latest release on the git host

A plugin without a tag rule is released by the tags that its id matches.  The release found is that
of a tag whose version has the greatest numbers; nothing but the tags is asked for it.  An id that
is too long for a pattern matches no tag.
-/
namespace ReleaseGap

/-- The version of a plugin that a tag tells by the plugin's id. -/
def Tag.version? (tag : Tag) (id : String) : Option String :=
  ((TagForm.plain? id.toList).bind (·.version? tag.name.toList)).map String.ofList

/-- Whether a tag marks a version of a plugin. -/
def Tag.MarksVersion (tag : Tag) (id version : String) : Prop :=
  Marks id.toList tag.name.toList version.toList

theorem Tag.version?_eq_some_iff {tag : Tag} {id version : String}
    (hread : (Pattern.Regex.read? (TagForm.suffixPattern id.toList [])).isSome) :
    tag.version? id = some version ↔ tag.MarksVersion id version := by
  rw [Tag.version?, TagForm.plain?_of_isSome hread, Option.bind_some, Option.map_eq_some_iff,
    MarksVersion, ← TagForm.version?_based_eq_some_iff]
  constructor
  · rintro ⟨v, hv, rfl⟩
    rwa [String.toList_ofList]
  · exact fun h => ⟨version.toList, h, String.ofList_toList⟩

theorem isNumeric_of_isVersionNumber {s : List Char} (h : IsVersionNumber s) :
    Version.IsNumeric s := by
  intro c hc
  have := h.2 c hc
  simp only [isVersionChar, Bool.or_eq_true, decide_eq_true_eq] at this
  simp only [Version.separates, Decimal.isDigit, Bool.or_eq_true, decide_eq_true_eq]
  tauto

namespace Github.Backend

theorem matchTag_ofRule_none (id : String) (tag : Tag) :
    (TagMatcher.ofRule id none).matchTag tag.name =
      match tag.version? id with
      | some version => .version version
      | none => .unmatched := by
  rw [TagMatcher.matchTag, Tag.version?, TagMatcher.ofRule]
  cases (TagForm.plain? id.toList).bind (·.version? tag.name.toList) <;> rfl

/-- Without a rule the tags alone tell their versions. -/
theorem candidates_ofRule_none (b : Backend) (id repository : String) (tags : List Tag) :
    b.candidates (TagMatcher.ofRule id none) repository tags
      = pure (tags.filterMap fun tag => (tag.version? id).map (·, tag)) := by
  induction tags with
  | nil => rfl
  | cons tag tags ih =>
    rw [candidates, ih, versionOf, matchTag_ofRule_none, List.filterMap_cons]
    cases tag.version? id <;> rfl

/-- The latest release among tags that their names alone tell about. -/
def releaseAmong (id : String) (tags : List Tag) : Option Release :=
  (Release.latest? (tags.filterMap fun tag => (tag.version? id).map (·, tag))).map
    fun (version, tag) => ⟨version, tag⟩

theorem latestRelease_of_no_rule {b : Backend} {plugin : Plugin}
    (hrule : b.tagRules.text? plugin.id = none) :
    b.latestRelease plugin = b.client.tags (b.qualified plugin.repository) >>= fun tags =>
      pure (tags.bind (releaseAmong plugin.id)) := by
  rw [latestRelease]
  congr 1
  funext tags
  cases tags with
  | none => rfl
  | some tags =>
    simp only [matcher, hrule, Option.map_none, candidates_ofRule_none, pure_bind]
    rfl

/-- The candidates for a release are the tags with the versions they mark. -/
theorem mem_candidates_iff {id : String} {tags : List Tag} {version : String} {tag : Tag}
    (hread : (Pattern.Regex.read? (TagForm.suffixPattern id.toList [])).isSome) :
    (version, tag) ∈ tags.filterMap (fun tag => (tag.version? id).map (·, tag)) ↔
      tag ∈ tags ∧ tag.MarksVersion id version := by
  simp only [List.mem_filterMap, Option.map_eq_some_iff, Tag.version?_eq_some_iff hread,
    Prod.mk.injEq]
  constructor
  · rintro ⟨tag, htag, version, hversion, rfl, rfl⟩
    exact ⟨htag, hversion⟩
  · rintro ⟨htag, hversion⟩
    exact ⟨tag, htag, version, hversion, rfl, rfl⟩

/-- Where one candidate stands, its tag stands, between the tags of the other candidates. -/
theorem exists_split_of_candidates {id : String} {tags : List Tag} {version : String} {tag : Tag}
    {before after : List (String × Tag)}
    (hread : (Pattern.Regex.read? (TagForm.suffixPattern id.toList [])).isSome)
    (h : tags.filterMap (fun tag => (tag.version? id).map (·, tag))
      = before ++ (version, tag) :: after) :
    ∃ earlier later, tags = earlier ++ tag :: later ∧ tag.MarksVersion id version ∧
      (∀ t ∈ earlier, ∀ v, t.MarksVersion id v → (v, t) ∈ before) ∧
      ∀ t ∈ later, ∀ v, t.MarksVersion id v → (v, t) ∈ after := by
  have hmem := h ▸ List.mem_append_right before List.mem_cons_self
  have hmarks := ((mem_candidates_iff hread).1 hmem).2
  obtain ⟨earlier, rest, rfl, hbefore, hrest⟩ := List.filterMap_eq_append_iff.1 h
  obtain ⟨skipped, t, later, rfl, hskipped, ht, hafter⟩ := List.filterMap_eq_cons_iff.1 hrest
  obtain ⟨v, -, hv⟩ := Option.map_eq_some_iff.1 ht
  obtain ⟨rfl, rfl⟩ := Prod.mk.inj hv
  refine ⟨earlier ++ skipped, later, by simp, hmarks, fun s hs w hw => ?_, fun s hs w hw => ?_⟩
  · rcases List.mem_append.1 hs with hs | hs
    · exact hbefore ▸ (mem_candidates_iff hread).2 ⟨hs, hw⟩
    · have hnone := hskipped s hs
      rw [(Tag.version?_eq_some_iff hread).2 hw] at hnone
      cases hnone
  · exact hafter ▸ (mem_candidates_iff hread).2 ⟨hs, hw⟩

/-- If the pattern of the plugin's id is read, the release found has the greatest numbers.  Its
version is the first with these numbers, and its tag is the last with that version. -/
theorem latestRelease_has_greatest_numbers {b : Backend} {plugin : Plugin}
    (hrule : b.tagRules.text? plugin.id = none)
    (hread : (Pattern.Regex.read? (TagForm.suffixPattern plugin.id.toList [])).isSome)
    {world : World} {past : List Question} {tags : List Tag}
    (htags : ((b.client.tags (b.qualified plugin.repository)).runFrom world past).1 = some tags)
    (hsmall : ∀ tag ∈ tags, ∀ v, tag.MarksVersion plugin.id v →
      ∀ n ∈ Version.numbers v, n < 2 ^ 64) :
    let found := ((b.latestRelease plugin).runFrom world past).1
    (found = none ↔ ∀ tag ∈ tags, ∀ v, ¬ tag.MarksVersion plugin.id v) ∧
    ∀ release, found = some release →
      (∀ tag ∈ tags, ∀ v, tag.MarksVersion plugin.id v →
        ¬ Version.numbers release.version < Version.numbers v) ∧
      (∃ before tag after, tags = before ++ tag :: after ∧
        tag.MarksVersion plugin.id release.version ∧
        ∀ earlier ∈ before, ∀ v, earlier.MarksVersion plugin.id v →
          Version.numbers v < Version.numbers release.version) ∧
      ∃ before after, tags = before ++ release.tag :: after ∧
        release.tag.MarksVersion plugin.id release.version ∧
        ∀ later ∈ after, ¬ later.MarksVersion plugin.id release.version := by
  intro found
  let candidates := tags.filterMap fun tag => (tag.version? plugin.id).map (·, tag)
  have hfound : found = (Release.latest? candidates).map fun (version, tag) => ⟨version, tag⟩ := by
    simp only [found, latestRelease_of_no_rule hrule, Session.runFrom_bind, htags,
      Session.runFrom_pure, Option.bind_some]
    rfl
  have hnumeric : ∀ c ∈ candidates, Version.IsNumeric c.1.toList := fun c hc =>
    isNumeric_of_isVersionNumber (isVersionNumber_of_marks ((mem_candidates_iff hread).1 hc).2)
  have hkey : ∀ x ∈ candidates, ∀ y ∈ candidates,
      Version.compareLoosely x.1 y.1 = .gt ↔ Version.numbers y.1 < Version.numbers x.1 := by
    intro x hx y hy
    obtain ⟨htagx, hmarksx⟩ := (mem_candidates_iff hread).1 hx
    obtain ⟨htagy, hmarksy⟩ := (mem_candidates_iff hread).1 hy
    refine Version.compareLoosely_eq_gt_iff (hnumeric x hx) (hnumeric y hy) fun n hn => ?_
    rcases List.mem_append.1 hn with hn | hn
    · exact hsmall x.2 htagx x.1 hmarksx n hn
    · exact hsmall y.2 htagy y.1 hmarksy n hn
  by_cases hnil : candidates = []
  · have hnone : found = none := by rw [hfound, hnil]; rfl
    refine ⟨iff_of_true hnone fun tag htag v hv => ?_, fun release hrelease => ?_⟩
    · exact List.ne_nil_of_mem ((mem_candidates_iff hread).2 ⟨htag, hv⟩) hnil
    · rw [hnone] at hrelease
      cases hrelease
  · obtain ⟨v, t, hlatest, hgreatest, ⟨before, u, after, hfirst, hbefore⟩,
      before', after', hlast, hafter⟩ := Release.exists_latest? hkey hnil
    have hsome : found = some ⟨v, t⟩ := by rw [hfound, hlatest]; rfl
    obtain ⟨earlier, later, htagsLast, hmarks, -, hlater⟩ := exists_split_of_candidates hread hlast
    obtain ⟨earlier', later', htagsFirst, hmarksFirst, hearlier, -⟩ :=
      exists_split_of_candidates hread hfirst
    refine ⟨iff_of_false (by simp [hsome]) fun hnone => ?_, fun release hrelease => ?_⟩
    · exact hnone t (by simp [htagsLast]) v hmarks
    · obtain rfl : (⟨v, t⟩ : Release) = release := Option.some.inj (hsome.symm.trans hrelease)
      refine ⟨fun tag htag w hw => ?_, ⟨earlier', u, later', htagsFirst, hmarksFirst, ?_⟩,
        earlier, later, htagsLast, hmarks, ?_⟩
      · exact not_lt.2 (hgreatest (w, tag) ((mem_candidates_iff hread).2 ⟨htag, hw⟩))
      · exact fun s hs w hw => hbefore (w, s) (hearlier s hs w hw)
      · exact fun s hs hw => hafter (v, s) (hlater s hs v hw) rfl

/-- Two tags for one version, another spelling of it, an older version and a tag that marks none. -/
def sampleTags : List Tag :=
  [⟨"foo-1.9", "a"⟩, ⟨"foo-1.10", "b"⟩, ⟨"1_10", "c"⟩, ⟨"foo-1.10", "d"⟩, ⟨"nightly", "e"⟩]

def samplePlugin : Plugin :=
  { id := "foo", version := "1.9", wiki := none, releaseTimestamp := none, kind := .hostedGit
    repository := "foo-plugin" }

def sampleBackend : Backend := .ofSettings {} {}

/-- A world that answers every request with the tags. -/
def sampleWorld : World :=
  let item (tag : Tag) :=
    s!"\x7b\"name\":\"{tag.name}\",\"commit\":\x7b\"sha\":\"{tag.reference}\"\x7d\x7d"
  let items := Text.joinWith "," (sampleTags.map item)
  .constant (fun _ => .answered 200 (Text.Utf8.encode s!"[{items}]")) fun _ => .notFound

theorem latestRelease_has_greatest_numbers_sample :
    let found := ((sampleBackend.latestRelease samplePlugin).runFrom sampleWorld []).1
    sampleBackend.tagRules.text? samplePlugin.id = none ∧
    (Pattern.Regex.read? (TagForm.suffixPattern samplePlugin.id.toList [])).isSome ∧
    ((sampleBackend.client.tags (sampleBackend.qualified samplePlugin.repository)).runFrom
      sampleWorld []).1 = some sampleTags ∧
    (∀ tag ∈ sampleTags, ∀ v, tag.MarksVersion samplePlugin.id v →
      ∀ n ∈ Version.numbers v, n < 2 ^ 64) ∧
    found = some ⟨"1.10", ⟨"foo-1.10", "d"⟩⟩ ∧
    ∀ tag ∈ sampleTags, ∀ v, tag.MarksVersion samplePlugin.id v →
      ¬ Version.numbers "1.10" < Version.numbers v := by
  intro found
  have hrule : sampleBackend.tagRules.text? samplePlugin.id = none := rfl
  have hread : (Pattern.Regex.read? (TagForm.suffixPattern samplePlugin.id.toList [])).isSome := by
    rw [TagForm.read?_suffixPattern_of_length_le (by decide)]
    rfl
  have htags : ((sampleBackend.client.tags
      (sampleBackend.qualified samplePlugin.repository)).runFrom sampleWorld []).1
        = some sampleTags := by decide +kernel
  have hcheck : ∀ tag ∈ sampleTags, ∀ v ∈ tag.version? samplePlugin.id,
      ∀ n ∈ Version.numbers v, n < 2 ^ 64 := by decide +kernel
  have hsmall : ∀ tag ∈ sampleTags, ∀ v, tag.MarksVersion samplePlugin.id v →
      ∀ n ∈ Version.numbers v, n < 2 ^ 64 :=
    fun tag htag v hv => hcheck tag htag v ((Tag.version?_eq_some_iff hread).2 hv)
  have hfound : found = some ⟨"1.10", ⟨"foo-1.10", "d"⟩⟩ := by
    simp only [found, latestRelease_of_no_rule hrule, Session.runFrom_bind, htags,
      Session.runFrom_pure, Option.bind_some]
    decide +kernel
  exact ⟨hrule, hread, htags, hsmall, hfound,
    ((latestRelease_has_greatest_numbers hrule hread htags hsmall).2 _ hfound).1⟩

end Github.Backend

end ReleaseGap
