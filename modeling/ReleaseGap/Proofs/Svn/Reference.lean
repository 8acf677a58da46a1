import ReleaseGap.Proofs.Decimal.Numeral
import ReleaseGap.Proofs.Tag.Newest
import ReleaseGap.Svn.Backend

/-!
# References to svn revisions

A release out of the index of svn tags carries the revision of its tag as a text.  The text reads
back as that revision, whatever number it is, so the log is asked for from there on.  What is done
about a reference that is no revision never happens to a release that the index gave.
-/
namespace ReleaseGap.Svn

/-- The call for the changes of a directory of the plugins, from a revision to the newest. -/
def logCall (settings : Settings.Svn) (repository : String) (revision : UInt64) : Call :=
  ⟨settings.command, ["--non-interactive", "log", "-r", s!"{revision}:HEAD", "--xml",
    s!"{settings.pluginsUrl}/{repository}"]⟩

/-- What a call prints, if the program is there and does not fail. -/
def printed? : Outcome → Option String
  | .notFound => none
  | .exited code output _ => if code = 0 then some (Text.Utf8.decodeLossy output) else none

/-- The changes that a call for them tells, none if it fails or prints something else. -/
def changesOf (outcome : Outcome) : List Revision := ((printed? outcome).bind readLog?).getD []

variable (world : World) (past : List Question)

theorem runFrom_call (command : String) (arguments : List String) :
    let c : Call := ⟨command, "--non-interactive" :: arguments⟩
    ∃ answer, (call command arguments).runFrom world past = (answer, past ++ [.call c]) ∧
      answer.toOption = printed? (world.outcome past c) := by
  intro c
  have hrun : (Session.run c).runFrom world past
      = (world.outcome past c, past ++ [.call c]) := rfl
  rw [call, Session.runFrom_bind, hrun]
  cases world.outcome past c with
  | notFound => exact ⟨_, rfl, rfl⟩
  | exited code output errors =>
    by_cases hcode : code = 0
    · exact ⟨.ok (Text.Utf8.decodeLossy output), by simp [hcode], by simp [printed?, hcode]; rfl⟩
    · exact ⟨.error _, by simp only [if_neg hcode]; rfl, by simp [printed?, hcode]; rfl⟩

theorem toOption_readOutput {α : Type} (read? : String → Option α)
    (answer : Except CallError String) :
    (readOutput read? answer).toOption = answer.toOption.bind read? := by
  cases answer with
  | error e => rfl
  | ok text =>
    have hread : Except.toOption (.ok text : Except CallError String) = some text := rfl
    rw [readOutput, Except.bind, hread, Option.bind_some]
    cases read? text <;> rfl

theorem runFrom_logSince (settings : Settings.Svn) (repository : String) (revision : UInt64) :
    let c := logCall settings repository revision
    ∃ answer, (logSince settings.command s!"{settings.pluginsUrl}/{repository}" revision).runFrom
        world past = (answer, past ++ [.call c]) ∧
      answer.toOption.getD [] = changesOf (world.outcome past c) := by
  intro c
  obtain ⟨answer, hcall, hanswer⟩ := runFrom_call world past settings.command
    ["log", "-r", s!"{revision}:HEAD", "--xml", s!"{settings.pluginsUrl}/{repository}"]
  refine ⟨readOutput readLog? answer, ?_, ?_⟩
  · rw [logSince, Session.runFrom_bind, hcall]
    rfl
  · rw [toOption_readOutput, hanswer]
    rfl

namespace Backend

variable {settings : Settings.Svn} {tags : List SvnTag} {plugin : Plugin} {release : Release}

theorem revisionOf?_toString (version name : String) (revision : UInt64) :
    revisionOf? ⟨version, ⟨name, toString revision⟩⟩ = some revision := by
  have hdigits : (toString revision).toList = Nat.toDigits 10 revision.toNat := Nat.toList_repr
  have hread : Decimal.natBelow? (Nat.pow 2 64) (toString revision).toList
      = some revision.toNat := by
    rw [hdigits]
    exact Decimal.natBelow?_toDigits revision.toNat_lt
  rw [revisionOf?, hread, Option.map_some, UInt64.ofNat_toNat]

/-- The changes from a revision on are what one call tells. -/
theorem runFrom_revisionsSince {b : Backend} {revision : UInt64}
    (h : revisionOf? release = some revision) :
    let c := logCall b.settings plugin.repository revision
    (b.revisionsSince plugin release).runFrom world past
      = (changesOf (world.outcome past c), past ++ [.call c]) := by
  intro c
  obtain ⟨answer, hlog, hanswer⟩ :=
    runFrom_logSince world past b.settings plugin.repository revision
  simp only [revisionsSince, h, Session.runFrom_bind, hlog]
  rw [← hanswer]
  cases answer <;> rfl

/-- The newest tag of the first of a plugin's names that some tag has. -/
def IsNewestOf (tags : List SvnTag) (plugin : Plugin) (found : SvnRelease) : Prop :=
  ∃ before name after,
    SvnIndex.lookupNames plugin.id plugin.repository = before ++ name :: after ∧
    (∀ other ∈ before, ∀ tag ∈ tags, ∀ version, ¬ tag.IsNamed other version) ∧
    SvnIndex.IsNewest tags name found

theorem exists_isNewestOf
    (h : (Backend.mk settings (.ofTags tags)).release? plugin = some release) :
    ∃ found, (SvnIndex.ofTags tags).lookup? plugin.id plugin.repository = some found ∧
      IsNewestOf tags plugin found ∧
      release = ⟨found.version, ⟨found.tag, toString found.revision⟩⟩ := by
  obtain ⟨found, hfound, rfl⟩ := Option.map_eq_some_iff.1 h
  have hlookup := hfound
  rw [SvnIndex.lookup?_eq_findSome?, List.findSome?_eq_some_iff] at hfound
  obtain ⟨before, name, after, hnames, hname, hbefore⟩ := hfound
  refine ⟨found, hlookup,
    ⟨before, name, after, hnames, fun other hother tag htag version hnamed => ?_,
      SvnIndex.isNewest_of_get?_ofTags hname⟩, rfl⟩
  have hsome := SvnIndex.get?_ofTags_isSome_iff.2 ⟨tag, htag, version, hnamed⟩
  rw [hbefore other hother] at hsome
  cases hsome

/-- The changes since a release, where `giveUp` is done about a reference that is no revision. -/
def revisionsSinceOr (giveUp : Session (List Revision)) (b : Backend) (plugin : Plugin)
    (release : Release) : Session (List Revision) :=
  if (revisionOf? release).isNone then giveUp else b.revisionsSince plugin release

theorem revisionsSince_eq (b : Backend) : b.revisionsSince = b.revisionsSinceOr (pure []) := by
  funext plugin release
  rw [revisionsSinceOr]
  split
  · rename_i hnone
    rw [revisionsSince, Option.isNone_iff_eq_none.1 hnone]
  · rfl

/-- A release out of an index of tags is that of the newest tag of the first of the plugin's names
that some tag has.  Its reference reads back as that tag's revision, and the changes are asked for
with one call, from that revision to the newest.  So collecting never gives up on a reference. -/
theorem revisionsSince_newest (settings : Settings.Svn) (tags : List SvnTag) (plugin : Plugin) :
    let backend : Backend := ⟨settings, .ofTags tags⟩
    (∀ release, backend.release? plugin = some release →
      ∃ found, backend.index.lookup? plugin.id plugin.repository = some found ∧
        IsNewestOf tags plugin found ∧
        release = ⟨found.version, ⟨found.tag, toString found.revision⟩⟩ ∧
        revisionOf? release = some found.revision ∧
        ∀ world past,
          let c := logCall settings plugin.repository found.revision
          (backend.revisionsSince plugin release).runFrom world past
            = (changesOf (world.outcome past c), past ++ [.call c])) ∧
    backend.revisionsSince = backend.revisionsSinceOr (pure []) ∧
    ∀ giveUp known,
      let other := { backend.source with revisionsSince := backend.revisionsSinceOr giveUp }
      other.collect plugin known = backend.source.collect plugin known := by
  intro backend
  have hreads : ∀ release, backend.release? plugin = some release →
      ∃ found, backend.index.lookup? plugin.id plugin.repository = some found ∧
        IsNewestOf tags plugin found ∧
        release = ⟨found.version, ⟨found.tag, toString found.revision⟩⟩ ∧
        revisionOf? release = some found.revision := by
    intro release hrelease
    obtain ⟨found, hlookup, hnewest, rfl⟩ := exists_isNewestOf hrelease
    exact ⟨found, hlookup, hnewest, rfl, revisionOf?_toString _ _ _⟩
  refine ⟨fun release hrelease => ?asked, backend.revisionsSince_eq, fun giveUp known => ?collected⟩
  case asked =>
    obtain ⟨found, hlookup, hnewest, heq, hrevision⟩ := hreads release hrelease
    exact ⟨found, hlookup, hnewest, heq, hrevision, fun world past =>
      runFrom_revisionsSince world past hrevision⟩
  case collected =>
    intro other
    rw [Source.collect, Source.collect]
    cases hrelease : backend.release? plugin with
    | none => simp only [other, source, hrelease, pure_bind]
    | some release =>
      obtain ⟨found, -, -, -, hrevision⟩ := hreads release hrelease
      simp [other, source, hrelease, revisionsSinceOr, hrevision]

/-- The newest revision that there can be, found by the name of a repository. -/
theorem revisionsSince_newest_sample :
    let backend : Backend := ⟨{}, .ofTags [⟨"foo-1.0", 7⟩, ⟨"foo-1.1", 18446744073709551615⟩]⟩
    let plugin : Plugin :=
      { id := "bar", version := "1.0", wiki := none, releaseTimestamp := none, kind := .legacySvn
        repository := "foo" }
    let release : Release := ⟨"1.1", ⟨"foo-1.1", "18446744073709551615"⟩⟩
    let c : Call := ⟨"svn", ["--non-interactive", "log", "-r", "18446744073709551615:HEAD",
      "--xml", "https://svn.jenkins-ci.org/trunk/hudson/plugins/foo"]⟩
    backend.release? plugin = some release ∧
    ∀ world past, (backend.revisionsSince plugin release).runFrom world past
      = (changesOf (world.outcome past c), past ++ [.call c]) := by
  intro backend plugin release c
  have hrelease : backend.release? plugin = some release := by decide +kernel
  obtain ⟨found, -, -, -, hrevision, hasked⟩ :=
    (revisionsSince_newest {} _ plugin).1 release hrelease
  have hlargest : revisionOf? release = some 18446744073709551615 := by decide +kernel
  have hfound : found.revision = 18446744073709551615 :=
    Option.some.inj (hrevision.symm.trans hlargest)
  have hcall : logCall {} plugin.repository 18446744073709551615 = c := by decide +kernel
  rw [hfound, hcall] at hasked
  exact ⟨hrelease, hasked⟩

end Backend

end ReleaseGap.Svn
