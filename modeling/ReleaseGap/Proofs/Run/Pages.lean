import Mathlib.Data.Nat.Find
import ReleaseGap.Outside.Snapshot
import ReleaseGap.Proofs.Outside.Asked
import ReleaseGap.Proofs.Run.Survey

/-!
# The end of a listing

The pages that list the organization's repositories are asked for one after another, for each as
often as a polite fetch does, up to the first page that is empty or cannot be had.  A listing ends
where there is such a page among those that have a number; else nothing comes of it.
-/
namespace ReleaseGap.Run

open Session (fetchQuestions textAt? runFrom_fetchPolitely)

section Pages

variable (settings : Settings) (world : World) (past : List Question)

/-- The address of a page that lists the organization's repositories. -/
def pageUrl (settings : Settings) (page : Nat) : String :=
  (Github.Client.ofSettings settings.github).pageUrl settings.github.organization page

/-- The names on a page that is asked for now, none if it cannot be had. -/
def namesAt? (page : Nat) : Option (List String) :=
  (textAt? world past (pageUrl settings page)).bind Github.readNames?

/-- Whether a page that is asked for now is empty or cannot be had. -/
def IsEndPage (page : Nat) : Prop :=
  namesAt? settings world past page = none ∨ namesAt? settings world past page = some []

instance (page : Nat) : Decidable (IsEndPage settings world past page) :=
  inferInstanceAs (Decidable (_ ∨ _))

/-- All that was asked when so many pages have been fetched, the first one first. -/
def askedThrough : Nat → List Question
  | 0 => past
  | page + 1 =>
    let asked := askedThrough page
    asked ++ fetchQuestions world asked (pageUrl settings (page + 1))

/-- The names on the first pages, in their order. -/
def namesThrough : Nat → List String
  | 0 => []
  | page + 1 => namesThrough page ++
    (namesAt? settings world (askedThrough settings world past page) (page + 1)).getD []

/-- Whether the listing ends with a page, when it is asked for behind those before it. -/
def EndsWith (page : Nat) : Prop :=
  IsEndPage settings world (askedThrough settings world past (page - 1)) page

/-- Whether the listing ends with one of the pages that have a number. -/
def ListingEnds : Prop := ∃ page, 1 ≤ page ∧ page ≤ lastPage ∧ EndsWith settings world past page

end Pages

variable {settings : Settings} {world : World} {past : List Question} {run : Run}

/-- Whether a run asks the git host that its settings name. -/
def AsksHostOf (run : Run) (settings : Settings) : Prop :=
  run.settings = settings ∧ run.github.client = .ofSettings settings.github

/-- A page that ends the listing whenever it is asked for ends it. -/
theorem listingEnds_of_isEndPage {page : Nat} (hpos : 1 ≤ page) (hle : page ≤ lastPage)
    (h : ∀ past, IsEndPage settings world past page) : ListingEnds settings world past :=
  ⟨page, hpos, hle, h _⟩

/-- A snapshot ends the listing with a page that it has no answer for. -/
theorem isEndPage_snapshot {snapshot : Snapshot} {page : Nat}
    (h : snapshot.replies.lookup (pageUrl settings page) = none) (past : List Question) :
    IsEndPage settings snapshot.world past page := by
  have hreply : ∀ past, snapshot.world.reply past (.get (pageUrl settings page))
      = .answered 404 [] := by
    intro past
    simp [Snapshot.world, Request.url, h]
  simp [IsEndPage, namesAt?, textAt?, hreply, Reply.text?]

theorem namesThrough_succ_of_endsWith {page : Nat} (h : EndsWith settings world past (page + 1)) :
    namesThrough settings world past (page + 1) = namesThrough settings world past page := by
  rw [namesThrough]
  rcases h with h | h <;> rw [Nat.add_sub_cancel] at h <;> simp [h]

/-- One turn: a page is fetched, and the next one exactly if it lists something. -/
theorem runFrom_repositoriesFrom_succ (hrun : run.AsksHostOf settings) (bound page : Nat) :
    let asked := askedThrough settings world past
    (run.repositoriesFrom (bound + 1) (page + 1)).runFrom world (asked page) =
      if IsEndPage settings world (asked page) (page + 1) then (some [], asked (page + 1))
      else
        let rest := (run.repositoriesFrom bound (page + 2)).runFrom world (asked (page + 1))
        (rest.1.map ((namesAt? settings world (asked page) (page + 1)).getD [] ++ ·), rest.2) := by
  intro asked
  have hpage : (run.github.client.repositories run.settings.github.organization
      (page + 1)).runFrom world (asked page)
        = (namesAt? settings world (asked page) (page + 1), asked (page + 1)) := by
    rw [hrun.1, hrun.2, Github.Client.repositories, Github.Client.fetchRead, Session.runFrom_bind,
      runFrom_fetchPolitely]
    rfl
  rw [repositoriesFrom, Session.runFrom_bind, hpage]
  cases hnames : namesAt? settings world (asked page) (page + 1) with
  | none => rw [if_pos (.inl hnames)]; rfl
  | some names =>
    cases names with
    | nil => rw [if_pos (.inr hnames)]; rfl
    | cons name names =>
      have hmore : ¬ IsEndPage settings world (asked page) (page + 1) := by
        simp [IsEndPage, hnames]
      rw [if_neg hmore]
      simp only [Session.runFrom_bind]
      rfl

/-- The listing ends with the first page that is empty or cannot be had, whatever bounds the number
of pages. -/
theorem runFrom_repositoriesFrom_of_endsWith (hrun : run.AsksHostOf settings) {last page : Nat}
    (hlast : EndsWith settings world past last)
    (hmore : ∀ n, page < n → n < last → ¬ EndsWith settings world past n) (hpage : page < last)
    {bound : Nat} (hbound : last ≤ page + bound) :
    ∃ names, (run.repositoriesFrom bound (page + 1)).runFrom world
        (askedThrough settings world past page)
          = (some names, askedThrough settings world past last) ∧
      namesThrough settings world past last = namesThrough settings world past page ++ names := by
  induction bound generalizing page with
  | zero => omega
  | succ bound ih =>
    rw [runFrom_repositoriesFrom_succ hrun]
    by_cases hnext : page + 1 = last
    · subst hnext
      refine ⟨[], if_pos hlast, ?_⟩
      rw [namesThrough_succ_of_endsWith hlast, List.append_nil]
    · have hlists : ¬ IsEndPage settings world (askedThrough settings world past page) (page + 1) :=
        hmore (page + 1) (by omega) (by omega)
      have hlater : ∀ n, page + 1 < n → n < last → ¬ EndsWith settings world past n :=
        fun n hn => hmore n (by omega)
      obtain ⟨names, hnames, hthrough⟩ := ih hlater (by omega) (by omega)
      rw [if_neg hlists]
      simp only [hnames]
      exact ⟨_, rfl, by rw [hthrough, namesThrough, List.append_assoc]⟩

/-- Where no page ends the listing, nothing comes of it: all pages within the bound are asked
for. -/
theorem runFrom_repositoriesFrom_of_not_endsWith (hrun : run.AsksHostOf settings)
    {bound page : Nat}
    (hmore : ∀ n, page < n → n ≤ page + bound → ¬ EndsWith settings world past n) :
    (run.repositoriesFrom bound (page + 1)).runFrom world (askedThrough settings world past page)
      = (none, askedThrough settings world past (page + bound)) := by
  induction bound generalizing page with
  | zero => rfl
  | succ bound ih =>
    have hlists : ¬ IsEndPage settings world (askedThrough settings world past page) (page + 1) :=
      hmore (page + 1) (by omega) (by omega)
    have hlater : ∀ n, page + 1 < n → n ≤ page + 1 + bound → ¬ EndsWith settings world past n :=
      fun n hn hle => hmore n (by omega) (by omega)
    rw [runFrom_repositoriesFrom_succ hrun, if_neg hlists, ih hlater, ← Nat.add_assoc,
      Nat.add_right_comm]
    rfl

/-- A listing that ends is asked for up to the first page that ends it. -/
theorem exists_last_page (hrun : run.AsksHostOf settings)
    (h : ListingEnds settings world past) :
    ∃ last, 1 ≤ last ∧ last ≤ lastPage ∧ EndsWith settings world past last ∧
      (∀ page, 1 ≤ page → page < last → ¬ EndsWith settings world past page) ∧
      (run.repositoriesFrom lastPage 1).runFrom world past
        = (some (namesThrough settings world past last),
            askedThrough settings world past last) := by
  classical
  let last := Nat.find h
  obtain ⟨hpos, hle, hlast⟩ : 1 ≤ last ∧ last ≤ lastPage ∧ EndsWith settings world past last :=
    Nat.find_spec h
  have hmore : ∀ page, 1 ≤ page → page < last → ¬ EndsWith settings world past page :=
    fun page hpage hpagelt hpageend =>
      Nat.find_min h hpagelt ⟨hpage, Nat.le_trans (Nat.le_of_lt hpagelt) hle, hpageend⟩
  obtain ⟨names, hnames, hthrough⟩ := runFrom_repositoriesFrom_of_endsWith hrun hlast hmore hpos
    ((Nat.zero_add lastPage).symm ▸ hle)
  refine ⟨last, hpos, hle, hlast, hmore, ?_⟩
  rw [hthrough]
  exact hnames

/-- A listing that does not end is asked for through all pages that have a number. -/
theorem runFrom_repositoriesFrom_of_not_listingEnds (hrun : run.AsksHostOf settings)
    (h : ¬ ListingEnds settings world past) :
    (run.repositoriesFrom lastPage 1).runFrom world past
      = (none, askedThrough settings world past lastPage) := by
  have hmore : ∀ n, 0 < n → n ≤ 0 + lastPage → ¬ EndsWith settings world past n :=
    fun n hpos hle hend => h ⟨n, hpos, Nat.zero_add lastPage ▸ hle, hend⟩
  have hlisting := runFrom_repositoriesFrom_of_not_endsWith hrun hmore
  rwa [Nat.zero_add] at hlisting

end ReleaseGap.Run
