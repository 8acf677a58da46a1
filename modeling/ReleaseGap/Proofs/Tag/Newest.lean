import Mathlib.Data.List.Induction
import ReleaseGap.Tag.SvnIndex

/-!
# The newest svn tag of an id

The index of svn tags has an entry for each id that some tag is named by.  The entry is that of the
tag made in the newest revision, and of several such tags that of the first one in the list.
-/
namespace ReleaseGap

/-- The last hyphen of a tag's name stands between an id and a version. -/
def SvnTag.IsNamed (tag : SvnTag) (id version : String) : Prop :=
  tag.name = id ++ "-" ++ version ∧ '-' ∉ version.toList

theorem SvnTag.parts?_eq_some_iff {tag : SvnTag} {id version : String} :
    tag.parts? = some (id, version) ↔ tag.IsNamed id version := by
  rw [parts?, Option.map_eq_some_iff, IsNamed, ← String.toList_inj, String.toList_append,
    String.toList_append]
  constructor
  · rintro ⟨⟨a, b⟩, hsplit, heq⟩
    obtain ⟨rfl, rfl⟩ := Prod.mk.inj heq
    simpa using Text.splitLast?_eq_some_iff.1 hsplit
  · rintro ⟨hname, hversion⟩
    exact ⟨(id.toList, version.toList),
      Text.splitLast?_eq_some_iff.2 ⟨by simpa using hname, hversion⟩, by simp⟩

namespace SvnIndex

/-- A release is that of the newest tag of an id, and of the first one if several are as new. -/
def IsNewest (tags : List SvnTag) (id : String) (release : SvnRelease) : Prop :=
  ∃ before tag after, tags = before ++ tag :: after ∧ tag.IsNamed id release.version ∧
    release.tag = tag.name ∧ release.revision = tag.revision ∧
    (∀ t ∈ before, ∀ v, t.IsNamed id v → t.revision < release.revision) ∧
    ∀ t ∈ after, ∀ v, t.IsNamed id v → t.revision ≤ release.revision

/-- What an index is to answer for an id: nothing if no tag is named by it, else its newest tag. -/
def Tells (tags : List SvnTag) (id : String) : Option SvnRelease → Prop
  | none => ∀ t ∈ tags, ∀ v, ¬ t.IsNamed id v
  | some release => IsNewest tags id release

theorem revision_le_of_isNewest {tags : List SvnTag} {id : String} {release : SvnRelease}
    (h : IsNewest tags id release) {t : SvnTag} (ht : t ∈ tags) {v : String}
    (hv : t.IsNamed id v) : t.revision ≤ release.revision := by
  obtain ⟨before, tag, after, rfl, -, -, hrevision, hbefore, hafter⟩ := h
  rcases List.mem_append.1 ht with ht | ht
  · exact UInt64.le_of_lt (hbefore t ht v hv)
  · rcases List.mem_cons.1 ht with rfl | ht
    · exact hrevision ▸ UInt64.le_refl _
    · exact hafter t ht v hv

theorem exists_tag_of_isNewest {tags : List SvnTag} {id : String} {release : SvnRelease}
    (h : IsNewest tags id release) :
    ∃ tag ∈ tags, tag.IsNamed id release.version ∧ release.tag = tag.name ∧
      release.revision = tag.revision := by
  obtain ⟨before, tag, after, rfl, hnamed, htag, hrevision, -, -⟩ := h
  exact ⟨tag, by simp, hnamed, htag, hrevision⟩

/-- A tag that is newer than all before it of its id is the newest. -/
theorem isNewest_concat_self {tags : List SvnTag} {id version : String} {tag : SvnTag}
    (hnamed : tag.IsNamed id version)
    (hnewer : ∀ t ∈ tags, ∀ v, t.IsNamed id v → t.revision < tag.revision) :
    IsNewest (tags ++ [tag]) id ⟨tag.name, version, tag.revision⟩ :=
  ⟨tags, tag, [], rfl, hnamed, rfl, rfl, hnewer, fun _ ht => absurd ht List.not_mem_nil⟩

/-- A tag behind all others that is not newer changes nothing. -/
theorem isNewest_concat {tags : List SvnTag} {id : String} {release : SvnRelease} {tag : SvnTag}
    (h : IsNewest tags id release)
    (htag : ∀ v, tag.IsNamed id v → tag.revision ≤ release.revision) :
    IsNewest (tags ++ [tag]) id release := by
  obtain ⟨before, newest, after, rfl, hnamed, hname, hrevision, hbefore, hafter⟩ := h
  refine ⟨before, newest, after ++ [tag], by simp, hnamed, hname, hrevision, hbefore,
    fun t ht => ?_⟩
  rcases List.mem_append.1 ht with ht | ht
  · exact hafter t ht
  · obtain rfl : t = tag := by simpa using ht
    exact htag

theorem get?_add_of_isNamed {tag : SvnTag} {id version : String} (h : tag.IsNamed id version)
    (index : SvnIndex) :
    (index.add tag).get? id =
      if (index.get? id).all (·.revision < tag.revision) then
        some ⟨tag.name, version, tag.revision⟩
      else index.get? id := by
  rw [add, SvnTag.parts?_eq_some_iff.2 h]
  change (if _ then _ else index : SvnIndex).get? id = _
  split
  · exact (Keyed.find?_insert id id _ index.entries).trans (if_pos rfl)
  · rfl

theorem get?_add_of_not_isNamed {tag : SvnTag} {id : String} (h : ∀ v, ¬ tag.IsNamed id v)
    (index : SvnIndex) : (index.add tag).get? id = index.get? id := by
  rw [add]
  split
  · rfl
  · rename_i key version hparts
    have hne : key ≠ id := by
      rintro rfl
      exact h version (SvnTag.parts?_eq_some_iff.1 hparts)
    split
    · exact (Keyed.find?_insert key id _ index.entries).trans (if_neg hne)
    · rfl

/-- An index that tells what the tags so far say tells it also with one tag more. -/
theorem tells_add {tags : List SvnTag} {index : SvnIndex} {id : String}
    (h : Tells tags id (index.get? id)) (tag : SvnTag) :
    Tells (tags ++ [tag]) id ((index.add tag).get? id) := by
  by_cases hnamed : ∃ v, tag.IsNamed id v
  · obtain ⟨version, hversion⟩ := hnamed
    rw [get?_add_of_isNamed hversion]
    cases hfound : index.get? id with
    | none =>
      rw [hfound] at h
      exact isNewest_concat_self hversion fun t ht v hv => absurd hv (h t ht v)
    | some release =>
      rw [hfound] at h
      by_cases hnewer : release.revision < tag.revision
      · simp only [Option.all_some, hnewer, decide_true, if_true]
        exact isNewest_concat_self hversion fun t ht v hv =>
          UInt64.lt_of_le_of_lt (revision_le_of_isNewest h ht hv) hnewer
      · simp only [Option.all_some, hnewer, decide_false, Bool.false_eq_true, if_false]
        exact isNewest_concat h fun _ _ => UInt64.not_lt.1 hnewer
  · have hother : ∀ v, ¬ tag.IsNamed id v := fun v hv => hnamed ⟨v, hv⟩
    rw [get?_add_of_not_isNamed hother]
    cases hfound : index.get? id with
    | none =>
      rw [hfound] at h
      intro t ht
      rcases List.mem_append.1 ht with ht | ht
      · exact h t ht
      · obtain rfl : t = tag := by simpa using ht
        exact hother
    | some release =>
      rw [hfound] at h
      exact isNewest_concat h fun v hv => absurd hv (hother v)

theorem tells_ofTags (tags : List SvnTag) (id : String) :
    Tells tags id ((ofTags tags).get? id) := by
  induction tags using List.reverseRecOn with
  | nil => exact fun t ht => absurd ht List.not_mem_nil
  | append_singleton tags tag ih =>
    rw [ofTags, List.foldl_append]
    exact tells_add ih tag

theorem isNewest_of_get?_ofTags {tags : List SvnTag} {id : String} {release : SvnRelease}
    (h : (ofTags tags).get? id = some release) : IsNewest tags id release := by
  have htells := tells_ofTags tags id
  rwa [h] at htells

theorem get?_ofTags_isSome_iff {tags : List SvnTag} {id : String} :
    ((ofTags tags).get? id).isSome ↔ ∃ t ∈ tags, ∃ v, t.IsNamed id v := by
  have htells := tells_ofTags tags id
  cases hfound : (ofTags tags).get? id with
  | none =>
    rw [hfound] at htells
    exact iff_of_false (by simp) fun ⟨t, ht, v, hv⟩ => htells t ht v hv
  | some release =>
    rw [hfound] at htells
    obtain ⟨tag, htag, hnamed, -⟩ := exists_tag_of_isNewest htells
    exact iff_of_true rfl ⟨tag, htag, release.version, hnamed⟩

/-- More tags take no id away, and the release of an id becomes no older. -/
theorem exists_get?_ofTags_append {tags : List SvnTag} {id : String} {release : SvnRelease}
    (h : (ofTags tags).get? id = some release) (more : List SvnTag) :
    ∃ newer, (ofTags (tags ++ more)).get? id = some newer ∧
      release.revision ≤ newer.revision := by
  obtain ⟨tag, htag, hnamed, -, hrevision⟩ :=
    exists_tag_of_isNewest (isNewest_of_get?_ofTags h)
  have htag : tag ∈ tags ++ more := List.mem_append_left more htag
  obtain ⟨newer, hnewer⟩ := Option.isSome_iff_exists.1
    (get?_ofTags_isSome_iff.2 ⟨tag, htag, release.version, hnamed⟩)
  refine ⟨newer, hnewer, ?_⟩
  rw [hrevision]
  exact revision_le_of_isNewest (isNewest_of_get?_ofTags hnewer) htag hnamed

theorem mem_entries_iff {index : SvnIndex} {id : String} {release : SvnRelease} :
    (id, release) ∈ index.entries ↔ index.get? id = some release :=
  ⟨fun h => Keyed.find?_eq_some_of_mem index.isOrdered h, Keyed.mem_of_find?_eq_some⟩

/-- The ids of an index. -/
def ids (index : SvnIndex) : List String := index.entries.map Prod.fst

theorem mem_ids_iff {index : SvnIndex} {id : String} :
    id ∈ index.ids ↔ (index.get? id).isSome := by
  simp only [ids, List.mem_map, Prod.exists, exists_and_right, exists_eq_right, mem_entries_iff,
    Option.isSome_iff_exists]

theorem get?_eq_none_iff {index : SvnIndex} {id : String} :
    index.get? id = none ↔ id ∉ index.ids := by
  rw [mem_ids_iff, Option.not_isSome_iff_eq_none]

theorem nodup_ids (index : SvnIndex) : index.ids.Nodup := by
  refine List.Pairwise.imp (fun {a b} hlt heq => ?_) index.isOrdered
  exact String.lt_irrefl a (heq ▸ hlt)

/-- The names a plugin is looked up by, in the order of preference. -/
def lookupNames (id repository : String) : List String := [id, repository, id ++ "-plugin"]

theorem lookup?_eq_findSome? (index : SvnIndex) (id repository : String) :
    index.lookup? id repository = (lookupNames id repository).findSome? index.get? := by
  simp only [lookup?, lookupNames, List.findSome?_cons]
  cases index.get? id <;> cases index.get? repository <;> cases index.get? (id ++ "-plugin") <;> rfl

/-- The index of some tags has one entry for each id that a tag is named by, which is that of its
newest tag.  A plugin is found under the first of its names that is such an id, and more tags take
nothing away. -/
theorem ofTags_holds_newest (tags : List SvnTag) :
    let index := ofTags tags
    index.ids.Nodup ∧
    (∀ id, id ∈ index.ids ↔ ∃ t ∈ tags, ∃ v, t.IsNamed id v) ∧
    (∀ id release, (id, release) ∈ index.entries →
      IsNewest tags id release ∧ release.tag = id ++ "-" ++ release.version ∧
        '-' ∉ release.version.toList) ∧
    (∀ id repository,
      (index.lookup? id repository = none ↔
        ∀ name ∈ lookupNames id repository, name ∉ index.ids) ∧
      ∀ release, index.lookup? id repository = some release ↔
        ∃ before name after, lookupNames id repository = before ++ name :: after ∧
          (name, release) ∈ index.entries ∧ ∀ other ∈ before, other ∉ index.ids) ∧
    ∀ more id release, (id, release) ∈ index.entries →
      ∃ newer, (id, newer) ∈ (ofTags (tags ++ more)).entries ∧
        release.revision ≤ newer.revision := by
  intro index
  refine ⟨index.nodup_ids, fun id => mem_ids_iff.trans get?_ofTags_isSome_iff,
    fun id release h => ?_, fun id repository => ?_, fun more id release h => ?_⟩
  · have hnewest := isNewest_of_get?_ofTags (mem_entries_iff.1 h)
    obtain ⟨tag, -, hnamed, hname, -⟩ := exists_tag_of_isNewest hnewest
    exact ⟨hnewest, hname.trans hnamed.1, hnamed.2⟩
  · simp only [lookup?_eq_findSome?, List.findSome?_eq_none_iff, List.findSome?_eq_some_iff,
      mem_entries_iff, get?_eq_none_iff, true_and, implies_true]
  · simp only [mem_entries_iff]
    exact exists_get?_ofTags_append (mem_entries_iff.1 h) more

/-- Two tags of one revision, an id with a hyphen and a name without one. -/
def mixedTags : List SvnTag :=
  [⟨"foo-1.0", 100⟩, ⟨"foo-1.1", 120⟩, ⟨"foo-bar-2.0", 130⟩, ⟨"foo-1.2", 120⟩, ⟨"README", 140⟩]

theorem ofTags_holds_newest_sample :
    let release : SvnRelease := ⟨"foo-1.1", "1.1", 120⟩
    ("foo", release) ∈ (ofTags mixedTags).entries ∧ IsNewest mixedTags "foo" release ∧
    (ofTags mixedTags).lookup? "none" "foo" = some release ∧
    ∃ newer, ("foo", newer) ∈ (ofTags (mixedTags ++ [⟨"foo-0.9", 90⟩])).entries ∧
      release.revision ≤ newer.revision := by
  intro release
  have hmem : ("foo", release) ∈ (ofTags mixedTags).entries := by decide +kernel
  obtain ⟨-, -, hnewest, hlookup, hmore⟩ := ofTags_holds_newest mixedTags
  refine ⟨hmem, (hnewest "foo" release hmem).1, ?_, hmore _ "foo" release hmem⟩
  refine ((hlookup "none" "foo").2 release).2 ⟨["none"], "foo", ["none-plugin"], rfl, hmem, ?_⟩
  decide +kernel

end SvnIndex

end ReleaseGap
