import ReleaseGap.Proofs.Github.LatestRelease
import ReleaseGap.Proofs.Outside.Constant
import ReleaseGap.Proofs.Run.Survey

/-!
# The requests of a run

However it is answered, a run asks for a plugin on the git host that has no tag rule just the tags
and the commits of its repository, and for a plugin in svn nothing of any server.  The addresses of
different repositories differ, and they differ from those of the pages that list the repositories of
the organization; of these none is asked for a plugin.
-/
namespace ReleaseGap

open Session (FetchesOnly)

namespace Github

namespace Client

variable (c : Client)

theorem tagsUrl_inj {repository repository' : String} :
    c.tagsUrl repository = c.tagsUrl repository' ↔ repository = repository' := by
  simp [tagsUrl, toString]

theorem commitsUrl_inj {repository repository' : String} :
    c.commitsUrl repository = c.commitsUrl repository' ↔ repository = repository' := by
  simp [commitsUrl, toString]

/-- The last two characters of an address, the last one first. -/
def ending (url : String) : List Char := url.toList.reverse.take 2

@[simp] theorem ending_tagsUrl (repository : String) :
    ending (c.tagsUrl repository) = ['s', 'g'] := by
  simp [ending, tagsUrl, toString]

@[simp] theorem ending_commitsUrl (repository : String) :
    ending (c.commitsUrl repository) = ['s', 't'] := by
  simp [ending, commitsUrl, toString]

@[simp] theorem ending_pageUrl (organization : String) (page : Nat) :
    ending (c.pageUrl organization page) = ['0', '0'] := by
  simp [ending, pageUrl, toString]

theorem tagsUrl_ne_commitsUrl (repository repository' : String) :
    c.tagsUrl repository ≠ c.commitsUrl repository' := by
  intro h
  simpa using congrArg ending h

theorem pageUrl_ne_tagsUrl (organization repository : String) (page : Nat) :
    c.pageUrl organization page ≠ c.tagsUrl repository := by
  intro h
  simpa using congrArg ending h

theorem pageUrl_ne_commitsUrl (organization repository : String) (page : Nat) :
    c.pageUrl organization page ≠ c.commitsUrl repository := by
  intro h
  simpa using congrArg ending h

/-- Whether an address is that of a page of an organization's repositories. -/
def IsPageUrl (c : Client) (url : String) : Prop :=
  ∃ organization page, url = c.pageUrl organization page

theorem not_isPageUrl_of_ending {url : String} (h : ending url ≠ ['0', '0']) :
    ¬ c.IsPageUrl url := by
  rintro ⟨organization, page, rfl⟩
  exact h (c.ending_pageUrl organization page)

theorem fetchesOnly_fetchRead {α : Type} (url : String) (read? : String → Option α) :
    (fetchRead url read?).FetchesOnly (· = url) :=
  (Session.fetchesOnly_fetchPolitely url).bind fun _ => Session.fetchesOnly_pure _

end Client

namespace Backend

variable (b : Backend) (plugin : Plugin)

/-- Whether an address is that of a repository's tags or commits. -/
def IsHistoryUrl (b : Backend) (repository url : String) : Prop :=
  url = b.client.tagsUrl repository ∨ url = b.client.commitsUrl repository

instance (b : Backend) (repository url : String) : Decidable (b.IsHistoryUrl repository url) :=
  inferInstanceAs (Decidable (_ ∨ _))

/-- Addresses that different repositories have differ. -/
theorem repository_eq_of_isHistoryUrl {repository repository' url : String}
    (h : b.IsHistoryUrl repository url) (h' : b.IsHistoryUrl repository' url) :
    repository = repository' := by
  rcases h with rfl | rfl
  · rcases h' with h' | h'
    · exact b.client.tagsUrl_inj.1 h'
    · exact absurd h' (b.client.tagsUrl_ne_commitsUrl _ _)
  · rcases h' with h' | h'
    · exact absurd h'.symm (b.client.tagsUrl_ne_commitsUrl _ _)
    · exact b.client.commitsUrl_inj.1 h'

theorem not_isHistoryUrl_pageUrl (organization repository : String) (page : Nat) :
    ¬ b.IsHistoryUrl repository (b.client.pageUrl organization page) := by
  rintro (h | h)
  · exact b.client.pageUrl_ne_tagsUrl _ _ _ h
  · exact b.client.pageUrl_ne_commitsUrl _ _ _ h

/-- Without a rule nothing but the history of the plugin's repository is asked for. -/
theorem fetchesOnly_answer (hrule : b.tagRules.text? plugin.id = none) :
    (b.source.answer plugin).FetchesOnly (b.IsHistoryUrl (b.qualified plugin.repository)) := by
  have htags : (b.latestRelease plugin).FetchesOnly
      (b.IsHistoryUrl (b.qualified plugin.repository)) := by
    rw [latestRelease_of_no_rule hrule]
    exact ((Client.fetchesOnly_fetchRead _ _).mono fun _ => Or.inl).bind fun _ =>
      Session.fetchesOnly_pure _
  refine htags.bind fun release => ?_
  cases release with
  | none => exact Session.fetchesOnly_pure _
  | some release =>
    refine FetchesOnly.bind ?_ fun _ => Session.fetchesOnly_pure _
    refine ((Client.fetchesOnly_fetchRead _ _).mono fun _ => Or.inr).bind fun commits => ?_
    cases commits <;> exact Session.fetchesOnly_pure _

theorem fetchesOnly_descriptorVersion (repository tag directory : String) :
    (b.descriptorVersion repository tag directory).FetchesOnly (¬ b.client.IsPageUrl ·) := by
  refine FetchesOnly.bind ((Session.fetchesOnly_fetchPolitely _).mono ?_) fun _ =>
    Session.fetchesOnly_pure _
  rintro _ rfl
  exact b.client.not_isPageUrl_of_ending (by simp [Client.ending, Client.fileUrl, toString])

theorem fetchesOnly_candidates (matcher : TagMatcher) (repository : String) (tags : List Tag) :
    (b.candidates matcher repository tags).FetchesOnly (¬ b.client.IsPageUrl ·) := by
  induction tags with
  | nil => exact Session.fetchesOnly_pure _
  | cons tag tags ih =>
    refine FetchesOnly.bind ?_ fun _ => ih.bind fun _ => Session.fetchesOnly_pure _
    rw [versionOf]
    cases matcher.matchTag tag.name with
    | version v => exact Session.fetchesOnly_pure _
    | lookUp base directory => exact b.fetchesOnly_descriptorVersion repository tag.name directory
    | unmatched => exact Session.fetchesOnly_pure _

/-- Whatever is asked for a plugin, it is no page of the organization's repositories. -/
theorem fetchesOnly_answer_of_any : (b.source.answer plugin).FetchesOnly
    (¬ b.client.IsPageUrl ·) := by
  have htags : (b.latestRelease plugin).FetchesOnly (¬ b.client.IsPageUrl ·) := by
    refine FetchesOnly.bind ((Client.fetchesOnly_fetchRead _ _).mono ?_) fun tags => ?_
    · rintro _ rfl
      exact b.client.not_isPageUrl_of_ending (by simp)
    · cases tags with
      | none => exact Session.fetchesOnly_pure _
      | some tags => exact (b.fetchesOnly_candidates _ _ tags).bind fun _ =>
          Session.fetchesOnly_pure _
  refine htags.bind fun release => ?_
  cases release with
  | none => exact Session.fetchesOnly_pure _
  | some release =>
    refine FetchesOnly.bind ?_ fun _ => Session.fetchesOnly_pure _
    refine ((Client.fetchesOnly_fetchRead _ _).mono ?_).bind fun commits => ?_
    · rintro _ rfl
      exact b.client.not_isPageUrl_of_ending (by simp)
    · cases commits <;> exact Session.fetchesOnly_pure _

end Backend

end Github

namespace Svn

variable (b : Backend)

theorem fetchesOnly_call (command : String) (arguments : List String) :
    (call command arguments).FetchesOnly fun _ => False := by
  refine (Session.fetchesOnly_run _).bind fun outcome => ?_
  cases outcome with
  | notFound => exact Session.fetchesOnly_pure _
  | exited code output errors =>
    dsimp only
    split <;> exact Session.fetchesOnly_pure _

namespace Backend

theorem fetchesOnly_connect (settings : Settings.Svn) :
    (connect settings).FetchesOnly fun _ => False := by
  refine FetchesOnly.bind ((fetchesOnly_call _ _).bind fun _ => Session.fetchesOnly_pure _)
    fun tags => ?_
  cases tags <;> exact Session.fetchesOnly_pure _

theorem fetchesOnly_trunkDirectories : b.trunkDirectories.FetchesOnly fun _ => False := by
  refine FetchesOnly.bind ((fetchesOnly_call _ _).bind fun _ => Session.fetchesOnly_pure _)
    fun names => ?_
  cases names <;> exact Session.fetchesOnly_pure _

theorem fetchesOnly_revisionsSince (plugin : Plugin) (release : Release) :
    (b.revisionsSince plugin release).FetchesOnly fun _ => False := by
  rw [revisionsSince]
  split
  · exact Session.fetchesOnly_pure _
  · refine FetchesOnly.bind ((fetchesOnly_call _ _).bind fun _ => Session.fetchesOnly_pure _)
      fun revisions => ?_
    cases revisions <;> exact Session.fetchesOnly_pure _

theorem fetchesOnly_answer (plugin : Plugin) :
    (b.source.answer plugin).FetchesOnly fun _ => False := by
  refine FetchesOnly.bind (Session.fetchesOnly_pure _) fun release => ?_
  cases release with
  | none => exact Session.fetchesOnly_pure _
  | some release =>
    exact (b.fetchesOnly_revisionsSince plugin release).bind fun _ => Session.fetchesOnly_pure _

end Backend

end Svn

namespace Run

variable (run : Run)

/-- The addresses that a plugin's changes are fetched from. -/
def IsHistoryUrlOf (plugin : Plugin) (url : String) : Prop :=
  plugin.kind = .hostedGit ∧
    run.github.IsHistoryUrl (run.github.qualified plugin.repository) url

theorem fetchesOnly_collectedFor {plugin : Plugin}
    (hrule : run.github.tagRules.text? plugin.id = none) :
    (run.collectedFor plugin).FetchesOnly (run.IsHistoryUrlOf plugin) := by
  refine FetchesOnly.bind ?_ fun _ => Session.fetchesOnly_pure _
  rw [sourceOf]
  cases hkind : plugin.kind with
  | hostedGit =>
    exact (run.github.fetchesOnly_answer plugin hrule).mono fun _ h => ⟨hkind, h⟩
  | legacySvn => exact (run.svn.fetchesOnly_answer plugin).mono fun _ h => h.elim

theorem fetchesOnly_repositoriesFrom (pages page : Nat) :
    (run.repositoriesFrom pages page).FetchesOnly fun url => ∃ page,
      url = run.github.client.pageUrl run.settings.github.organization page := by
  induction pages generalizing page with
  | zero => exact Session.fetchesOnly_pure _
  | succ pages ih =>
    refine FetchesOnly.bind ((Github.Client.fetchesOnly_fetchRead _ _).mono fun _ h => ⟨page, h⟩)
      fun names => ?_
    match names with
    | none => exact Session.fetchesOnly_pure _
    | some [] => exact Session.fetchesOnly_pure _
    | some (name :: names) => exact (ih _).bind fun _ => Session.fetchesOnly_pure _

end Run
end ReleaseGap
