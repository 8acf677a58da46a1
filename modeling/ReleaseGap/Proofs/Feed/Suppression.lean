import ReleaseGap.Proofs.Run.Suppressed

/-!
# Two tests of suppression

A released plugin is left out by its final repository, a name of a listing by the operator's entry
for it.  The two tests agree, but for a plugin whose own id is the mark of suppression: it is left
out without an entry where its sources are in svn, for its directory there is called like it.
-/
namespace ReleaseGap.Plugin

variable {id : String} {entry : FeedEntry} {tables : Overrides.Tables}

/-- Only a plugin called by the mark has it for a repository when the tables say nothing. -/
theorem defaultRepository_eq_skipMark_iff {kind : SourceKind} :
    defaultRepository id kind = skipMark ↔ id = skipMark ∧ kind = .legacySvn := by
  have hend : ∀ s : String, s ++ "-plugin" ≠ skipMark := by
    intro s h
    have hlast := congrArg (fun s : String => s.toList.getLast?) h
    rw [String.toList_append, List.getLast?_append] at hlast
    simp [skipMark] at hlast
  rw [defaultRepository]
  cases kind with
  | legacySvn => simp
  | hostedGit =>
    by_cases hid : Text.endsWith id "-plugin" = true
    · have hne : id ≠ skipMark := by
        rintro rfl
        exact absurd hid (by decide)
      simp [hid, hne]
    · simp [hid, hend]

theorem ofFeed?_eq_none_iff :
    ofFeed? id entry tables = none ↔
      (tables.repositories.text? id).getD (defaultRepository id (kindOf id entry tables)) =
        skipMark := by
  rw [ofFeed?]
  split <;> simp_all

/-- A plugin of the feed is left out if and only if the operator suppresses it, or names no
repository for it and it is an svn plugin that is itself called by the mark of suppression. -/
theorem ofFeed?_eq_none_iff_isSkipped (id : String) (entry : FeedEntry) (tables : Overrides.Tables)
    (limit : Option String) :
    (ofFeed? id entry tables = none ↔
      (Context.start tables limit).isSkipped id = true ∨
        (id = skipMark ∧ kindOf id entry tables = .legacySvn ∧
          tables.repositories.text? id = none)) ∧
    ((Context.start tables limit).isSkipped id = true ↔
      tables.repositories.text? id = some skipMark) := by
  have hskipped : (Context.start tables limit).isSkipped id = true ↔
      tables.repositories.text? id = some skipMark := by
    rw [Context.isSkipped, beq_iff_eq]
    rfl
  refine ⟨?_, hskipped⟩
  rw [ofFeed?_eq_none_iff, hskipped]
  cases htext : tables.repositories.text? id with
  | none => simp [defaultRepository_eq_skipMark_iff]
  | some repository => simp

/-- The plugin `skip` in svn is left out, though no table has an entry. -/
theorem ofFeed?_skip_of_no_entry :
    ofFeed? "skip" { version := "1.0", host := some "svn.jenkins-ci.org" } {} = none ∧
      (Context.start {} none).isSkipped "skip" = false := by
  decide

end ReleaseGap.Plugin
