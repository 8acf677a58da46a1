import Mathlib.Data.List.Pairwise
import Mathlib.Data.List.SplitBy
import Mathlib.Tactic.Common
import ReleaseGap.Proofs.Decimal.Numeral
import ReleaseGap.Version.Loose

/-!
# Maximal runs

The components of a version are the maximal runs of one class between its separators, so a version
that is continued behind a separator keeps its components and goes on with those of what follows.
What the reader of components has in its buffer is always the beginning of the next run.
-/
namespace ReleaseGap.Version

/-- The class of a character; a separator is not asked for its own. -/
def classOf (c : Char) : Kind :=
  if c.isDigit then .digit else if c.isLower then .lower else .other

/-- What stands between the dots of a version, where underscores count as dots.  Nothing empty
counts. -/
def pieces (s : List Char) : List (List Char) :=
  ((s.map fun c => if c = '_' then '.' else c).splitOn '.').filter fun piece => !piece.isEmpty

/-- The maximal runs of one class in the pieces of a version. -/
def maximalRuns (s : List Char) : List (List Char) :=
  (pieces s).flatMap fun piece => piece.splitBy fun c d => classOf c = classOf d

/-- What a run says: a number of 64 bits at most, or else its own text. -/
def readRun (run : List Char) : Component :=
  if run.all Char.isDigit ∧ Nat.ofDigitChars 10 run 0 < 2 ^ 64 then
    .number (Nat.ofDigitChars 10 run 0)
  else .text (String.ofList run)

/-- Puts a character into the first run if it is of its class, and into a run of its own if not. -/
def consRun (c : Char) : List (List Char) → List (List Char)
  | (d :: run) :: runs =>
    if kind? c = kind? d then (c :: d :: run) :: runs else [c] :: (d :: run) :: runs
  | runs => [c] :: runs

/-- The longest runs of one class, separators included. -/
def rawRuns (s : List Char) : List (List Char) := s.foldr consRun []

/-- The runs that count. -/
def runs (s : List Char) : List (List Char) :=
  (rawRuns s).filter fun run => !run.all separates

theorem kind?_eq_none_iff {c : Char} : kind? c = none ↔ separates c = true := by
  rw [kind?]
  split
  · simp [*]
  · split
    · simp [*]
    · split <;> simp [*]

theorem kind?_of_not_separates {c : Char} (h : separates c = false) :
    kind? c = some (classOf c) := by
  have hdigit : ('0' ≤ c ∧ c ≤ '9') ↔ c.isDigit = true := by
    simp [← Decimal.isDigit_iff, Decimal.isDigit]
  have hlower : ('a' ≤ c ∧ c ≤ 'z') ↔ c.isLower = true := by
    change _ ↔ (decide (c.val ≥ 'a'.val) && decide (c.val ≤ 'z'.val)) = true
    simp [Char.le_def]
  simp only [kind?, h, Bool.false_eq_true, if_false, hdigit, hlower, classOf]
  split <;> [rfl; skip]
  split <;> rfl

theorem rawRuns_cons (c : Char) (s : List Char) : rawRuns (c :: s) = consRun c (rawRuns s) := rfl

/-- The runs of a text that is not empty begin with its first character. -/
theorem exists_splitBy_eq_cons (r : Char → Char → Bool) (c : Char) (s : List Char) :
    ∃ run others, (c :: s).splitBy r = (c :: run) :: others := by
  have hflat := List.flatten_splitBy r (c :: s)
  cases hsplit : (c :: s).splitBy r with
  | nil => exact absurd (List.splitBy_eq_nil.1 hsplit) (List.cons_ne_nil c s)
  | cons first others =>
    rw [hsplit] at hflat
    cases first with
    | nil => exact absurd (hsplit ▸ List.mem_cons_self) (List.nil_notMem_splitBy r _)
    | cons d run =>
      obtain rfl : d = c := by simpa using (List.cons.inj hflat).1
      exact ⟨run, others, rfl⟩

/-- The runs are those of any relation that holds between characters of one class. -/
theorem splitBy_eq_rawRuns {r : Char → Char → Bool} {s : List Char}
    (hr : ∀ c ∈ s, ∀ d ∈ s, r c d = decide (kind? c = kind? d)) : s.splitBy r = rawRuns s := by
  induction s with
  | nil => rfl
  | cons c s ih =>
    rw [rawRuns_cons, ← ih fun d hd e he =>
      hr d (List.mem_cons_of_mem c hd) e (List.mem_cons_of_mem c he)]
    cases s with
    | nil => rfl
    | cons d s =>
      have hcd : r c d = decide (kind? c = kind? d) :=
        hr c List.mem_cons_self d (List.mem_cons_of_mem c List.mem_cons_self)
      obtain ⟨run, others, hsplit⟩ := exists_splitBy_eq_cons r d s
      rw [hsplit, consRun]
      split
      · rename_i hkind
        obtain ⟨hflat, hnil, hchain, hnext⟩ := List.splitBy_eq_iff.1 hsplit
        rw [List.splitBy_eq_iff]
        refine ⟨by simp [hflat], by simpa using hnil, ?_, ?_⟩
        · intro m hm
          rcases List.mem_cons.1 hm with rfl | hm
          · exact List.isChain_cons_cons.2 ⟨by simp [hcd, hkind], hchain _ List.mem_cons_self⟩
          · exact hchain m (List.mem_cons_of_mem _ hm)
        · rw [List.isChain_cons] at hnext ⊢
          refine ⟨fun m hm => ?_, hnext.2⟩
          obtain ⟨_, hm', h⟩ := hnext.1 m hm
          exact ⟨List.cons_ne_nil _ _, hm', by simpa using h⟩
      · rename_i hkind
        rw [← hsplit]
        exact List.splitBy_append_cons (l := [c]) s (by simp [hcd, hkind])

theorem rawRuns_eq_splitBy (s : List Char) :
    rawRuns s = s.splitBy fun c d => kind? c = kind? d :=
  (splitBy_eq_rawRuns fun _ _ _ _ => rfl).symm

theorem kind?_eq_of_mem_rawRuns {s run : List Char} (h : run ∈ rawRuns s) :
    ∀ c ∈ run, ∀ d ∈ run, kind? c = kind? d := by
  rw [rawRuns_eq_splitBy] at h
  have hchain : run.IsChain fun c d => kind? c = kind? d := by
    simpa using List.isChain_of_mem_splitBy h
  have : IsTrans Char fun c d => kind? c = kind? d := ⟨fun _ _ _ => Eq.trans⟩
  have : Std.Symm fun c d => kind? c = kind? d := ⟨fun _ _ => Eq.symm⟩
  exact @List.Pairwise.forall_of_forall _ (fun c d => kind? c = kind? d) run _ (fun _ _ => rfl)
    (List.isChain_iff_pairwise.1 hchain)

/-- A separator at the front makes no run that counts. -/
theorem runs_cons_of_separates {c : Char} (hc : separates c = true) (s : List Char) :
    runs (c :: s) = runs s := by
  have hall : ∀ run, c :: run ∈ rawRuns (c :: s) → (c :: run).all separates = true := by
    intro run hrun
    refine List.all_eq_true.2 fun d hd => ?_
    rw [← kind?_eq_none_iff, kind?_eq_of_mem_rawRuns hrun d hd c List.mem_cons_self,
      kind?_eq_none_iff, hc]
  cases s with
  | nil => simp [runs, rawRuns, consRun, hc]
  | cons d s =>
    obtain ⟨run, others, hsplit⟩ := exists_splitBy_eq_cons (fun c d => kind? c = kind? d) d s
    rw [← rawRuns_eq_splitBy] at hsplit
    rw [rawRuns_cons, hsplit, consRun] at hall
    rw [runs, runs, rawRuns_cons, hsplit, consRun]
    split
    · rename_i hkind
      rw [if_pos hkind] at hall
      have hfirst := hall (d :: run) List.mem_cons_self
      rw [List.filter_cons_of_neg (by simp [hfirst]), List.filter_cons_of_neg]
      simpa [hc] using hfirst
    · simp [hc]

/-- Where nothing separates every run counts. -/
theorem runs_of_plain {s : List Char} (hs : ∀ c ∈ s, separates c = false) :
    runs s = rawRuns s := by
  rw [runs, List.filter_eq_self]
  intro run hrun
  have hne : run ≠ [] := by
    rintro rfl
    rw [rawRuns_eq_splitBy] at hrun
    exact List.nil_notMem_splitBy _ _ hrun
  obtain ⟨c, run, rfl⟩ := List.exists_cons_of_ne_nil hne
  have hflat : (rawRuns s).flatten = s := by rw [rawRuns_eq_splitBy, List.flatten_splitBy]
  have hc : c ∈ s := hflat ▸ List.mem_flatten.2 ⟨_, hrun, List.mem_cons_self⟩
  simp [hs c hc]

/-- A run ends where the class changes. -/
theorem runs_append_of_kind?_ne {s : List Char} {c : Char}
    (hends : ∀ d ∈ s.getLast?, kind? d ≠ kind? c) (t : List Char) :
    runs (s ++ c :: t) = runs s ++ runs (c :: t) := by
  have hraw : rawRuns (s ++ c :: t) = rawRuns s ++ rawRuns (c :: t) := by
    simp only [rawRuns_eq_splitBy]
    exact List.splitBy_append_cons t fun d hd => decide_eq_false (hends d hd)
  rw [runs, hraw, List.filter_append]
  rfl

theorem runs_append_cons {piece : List Char} (hpiece : ∀ c ∈ piece, separates c = false)
    {c : Char} (hc : separates c = true) (s : List Char) :
    runs (piece ++ c :: s) = rawRuns piece ++ runs s := by
  rw [runs_append_of_kind?_ne, runs_cons_of_separates hc, runs_of_plain hpiece]
  intro d hd hsame
  have hd' := hpiece d (List.mem_of_mem_getLast? hd)
  rw [kind?_eq_none_iff.2 hc, kind?_eq_none_iff, hd'] at hsame
  cases hsame

/-- Characters of one class make up one run. -/
theorem rawRuns_of_alike {run : List Char} {kind : Option Kind} (hne : run ≠ [])
    (h : ∀ c ∈ run, kind? c = kind) : rawRuns run = [run] := by
  rw [rawRuns_eq_splitBy]
  refine List.splitBy_of_isChain hne (List.Pairwise.isChain ?_)
  exact List.pairwise_of_forall_mem_list fun c hc d hd => by simp [h c hc, h d hd]

/-- The runs that count are those of what stands between separators. -/
theorem runs_eq_flatMap (s : List Char) : runs s = (s.splitOnP separates).flatMap rawRuns := by
  -- The piece that is being read is kept apart; nothing in it separates.
  suffices h : ∀ piece : List Char, (∀ c ∈ piece, separates c = false) →
      runs (piece ++ s) = ((piece ++ s).splitOnP separates).flatMap rawRuns from
    h [] fun c hc => absurd hc List.not_mem_nil
  induction s with
  | nil =>
    intro piece hpiece
    rw [List.append_nil, runs_of_plain hpiece, List.splitOnP_eq_singleton hpiece]
    simp
  | cons c s ih =>
    intro piece hpiece
    cases hc : separates c with
    | true =>
      rw [runs_append_cons hpiece hc, List.splitOnP_append_cons_of_forall_mem hpiece c hc,
        List.flatMap_cons]
      exact congrArg _ (ih [] fun c hc => absurd hc List.not_mem_nil)
    | false =>
      rw [List.append_cons]
      refine ih (piece ++ [c]) fun d hd => ?_
      rcases List.mem_append.1 hd with hd | hd
      · exact hpiece d hd
      · rw [List.mem_singleton.1 hd, hc]

/-- What stands between separators is no separator. -/
theorem not_separates_of_mem_splitOnP {s run : List Char} (h : run ∈ s.splitOnP separates) :
    ∀ c ∈ run, c ∈ s ∧ separates c = false := by
  induction s generalizing run with
  | nil =>
    obtain rfl : run = [] := by simpa using h
    exact fun c hc => absurd hc List.not_mem_nil
  | cons d s ih =>
    have hrest : ∀ run ∈ s.splitOnP separates, ∀ c ∈ run, c ∈ d :: s ∧ separates c = false :=
      fun run hrun c hc => ⟨List.mem_cons_of_mem d (ih hrun c hc).1, (ih hrun c hc).2⟩
    rw [List.splitOnP_cons_eq_if_modifyHead] at h
    by_cases hd : separates d = true
    · rw [if_pos hd] at h
      rcases List.mem_cons.1 h with rfl | h
      · exact fun c hc => absurd hc List.not_mem_nil
      · exact hrest run h
    · rw [if_neg hd] at h
      obtain ⟨first, others, hsplit⟩ :=
        List.exists_cons_of_ne_nil (List.splitOnP_ne_nil separates s)
      rw [hsplit] at h hrest
      rcases List.mem_cons.1 h with rfl | h
      · intro c hc
        rcases List.mem_cons.1 hc with rfl | hc
        · exact ⟨List.mem_cons_self, by simpa using hd⟩
        · exact hrest first List.mem_cons_self c hc
      · exact hrest run (List.mem_cons_of_mem first h)

theorem pieces_eq (s : List Char) :
    pieces s = (s.splitOnP separates).filter fun piece => !piece.isEmpty := by
  rw [pieces]
  congr 1
  induction s with
  | nil => rfl
  | cons c s ih =>
    rw [List.map_cons, List.splitOn_cons_eq_if_modifyHead, List.splitOnP_cons_eq_if_modifyHead, ih]
    by_cases hunderscore : c = '_'
    · subst hunderscore; simp [separates]
    · by_cases hdot : c = '.'
      · subst hdot; simp [separates]
      · simp [separates, hunderscore, hdot]

/-- A piece that is empty has no runs. -/
theorem runs_eq_flatMap_filter (s : List Char) :
    runs s = ((s.splitOnP separates).filter fun piece => !piece.isEmpty).flatMap rawRuns := by
  rw [runs_eq_flatMap]
  induction s.splitOnP separates with
  | nil => rfl
  | cons piece others ih =>
    cases piece with
    | nil => simpa [rawRuns] using ih
    | cons c piece => simp [ih]

theorem runs_eq_maximalRuns (s : List Char) : runs s = maximalRuns s := by
  rw [runs_eq_flatMap_filter, maximalRuns, pieces_eq]
  refine List.flatMap_congr fun piece hpiece => (splitBy_eq_rawRuns fun c hc d hd => ?_).symm
  have hplain := not_separates_of_mem_splitOnP (List.mem_of_mem_filter hpiece)
  simp [kind?_of_not_separates (hplain c hc).2, kind?_of_not_separates (hplain d hd).2]

theorem flatten_splitOnP (s : List Char) :
    (s.splitOnP separates).flatten = s.filter fun c => !separates c := by
  induction s with
  | nil => rfl
  | cons c s ih =>
    rw [List.splitOnP_cons_eq_if_modifyHead]
    cases hc : separates c with
    | true => simpa [hc] using ih
    | false =>
      obtain ⟨first, others, hsplit⟩ :=
        List.exists_cons_of_ne_nil (List.splitOnP_ne_nil separates s)
      rw [hsplit] at ih ⊢
      simpa [hc] using ih

/-- Nothing but the separators is lost. -/
theorem flatten_maximalRuns (s : List Char) :
    (maximalRuns s).flatten = s.filter fun c => !separates c := by
  rw [← runs_eq_maximalRuns, runs_eq_flatMap, ← flatten_splitOnP]
  induction s.splitOnP separates with
  | nil => rfl
  | cons piece others ih => simp [ih, rawRuns_eq_splitBy]

theorem runs_append_cons_of_separates {c : Char} (hc : separates c = true) (s t : List Char) :
    runs (s ++ c :: t) = runs s ++ runs t := by
  simp only [runs_eq_flatMap, List.splitOnP_append_cons s t hc, List.flatMap_append]

theorem ne_nil_of_mem_runs {s run : List Char} (h : run ∈ runs s) : run ≠ [] := by
  rintro rfl
  have hraw : [] ∈ rawRuns s := List.mem_of_mem_filter h
  rw [rawRuns_eq_splitBy] at hraw
  exact List.nil_notMem_splitBy _ _ hraw

theorem runs_eq_nil_iff {s : List Char} : runs s = [] ↔ ∀ c ∈ s, separates c = true := by
  have hflat := flatten_maximalRuns s
  rw [← runs_eq_maximalRuns] at hflat
  constructor
  · intro h
    rw [h] at hflat
    simpa using List.filter_eq_nil_iff.1 hflat.symm
  · intro h
    by_contra hne
    obtain ⟨run, others, hruns⟩ := List.exists_cons_of_ne_nil hne
    obtain ⟨c, run, rfl⟩ :=
      List.exists_cons_of_ne_nil (ne_nil_of_mem_runs (hruns ▸ List.mem_cons_self))
    rw [hruns, List.filter_eq_nil_iff.2 (by simpa using h)] at hflat
    cases hflat

/-! ### The reader -/

theorem ofRun_digit {run : List Char} (hne : run ≠ []) :
    Component.ofRun (some .digit) run = readRun run := by
  have hall : run.all Decimal.isDigit = run.all Char.isDigit := by
    rw [funext Decimal.isDigit_iff]
  have hempty : run.isEmpty = false := List.isEmpty_eq_false_iff.2 hne
  rw [Component.ofRun, readRun, Decimal.digits?, hempty, hall, ← Decimal.valueOf_eq_ofDigitChars]
  cases run.all Char.isDigit with
  | false => rfl
  | true =>
    simp only [Bool.not_true, Bool.or_self, Bool.false_eq_true, if_false, Option.filter_some,
      decide_eq_true_eq, true_and, Nat.pow_eq]
    by_cases hsmall : Decimal.valueOf run < 2 ^ 64
    · rw [if_pos hsmall, if_pos hsmall]
    · rw [if_neg hsmall, if_neg hsmall]

theorem ofRun_eq_readRun {run : List Char} {kind : Option Kind} (hne : run ≠ [])
    (h : ∀ c ∈ run, separates c = false ∧ kind? c = kind) :
    Component.ofRun kind run = readRun run := by
  obtain ⟨c, rest, rfl⟩ := List.exists_cons_of_ne_nil hne
  obtain ⟨hplain, rfl⟩ := h c List.mem_cons_self
  rw [kind?_of_not_separates hplain]
  cases hclass : classOf c with
  | digit => exact ofRun_digit hne
  | lower | other =>
    have hdigit : c.isDigit = false := by
      by_contra hdigit
      rw [classOf, if_pos (by simpa using hdigit)] at hclass
      cases hclass
    simp [Component.ofRun, readRun, hdigit]

theorem runs_of_alike {run : List Char} {kind : Option Kind} (hne : run ≠ [])
    (h : ∀ c ∈ run, separates c = false ∧ kind? c = kind) : runs run = [run] := by
  rw [runs_of_plain fun c hc => (h c hc).1, rawRuns_of_alike hne fun c hc => (h c hc).2]

namespace Scan

variable {scan : Scan} {c : Char}

/-- The buffer has characters of the class that was read last, and none that separates. -/
def IsAlike (scan : Scan) : Prop :=
  ∀ c ∈ scan.current, separates c = false ∧ kind? c = scan.kind

/-- The components of a version of which a part is read already. -/
def whole (scan : Scan) (s : List Char) : List Component :=
  scan.components ++ (runs (scan.current ++ s)).map readRun

theorem current_flush (scan : Scan) : scan.flush.current = [] := by
  rw [flush]
  split
  · rename_i hempty
    exact List.isEmpty_iff.1 hempty
  · rfl

theorem components_flush (h : scan.IsAlike) :
    scan.flush.components = scan.components ++ (runs scan.current).map readRun := by
  rw [flush]
  split
  · rename_i hempty
    rw [List.isEmpty_iff.1 hempty]
    exact (List.append_nil _).symm
  · rename_i hempty
    have hne : scan.current ≠ [] := mt List.isEmpty_iff.2 hempty
    rw [runs_of_alike hne h, List.map_singleton, ← ofRun_eq_readRun hne h]

theorem mem_current_before (h : scan.IsAlike) {d : Char} (hd : d ∈ (scan.before c).current) :
    separates d = false ∧ kind? d = kind? c := by
  rw [before] at hd
  split at hd
  · rename_i hsame
    exact hsame ▸ h d hd
  · rw [current_flush] at hd
    cases hd

theorem current_before_of_separates (h : scan.IsAlike) (hc : separates c = true) :
    (scan.before c).current = [] := by
  refine List.eq_nil_iff_forall_not_mem.2 fun d hd => ?_
  obtain ⟨hplain, hsame⟩ := mem_current_before h hd
  rw [kind?_eq_none_iff.2 hc, kind?_eq_none_iff, hplain] at hsame
  cases hsame

theorem whole_before (h : scan.IsAlike) (c : Char) (s : List Char) :
    (scan.before c).whole (c :: s) = scan.whole (c :: s) := by
  rw [before]
  split
  · rfl
  · rename_i hother
    have hends : ∀ d ∈ scan.current.getLast?, kind? d ≠ kind? c := fun d hd hsame =>
      hother (hsame.symm.trans (h d (List.mem_of_mem_getLast? hd)).2)
    rw [whole, whole, current_flush, components_flush h, runs_append_of_kind?_ne hends,
      List.map_append, List.append_assoc, List.nil_append]

theorem isAlike_step (h : scan.IsAlike) (c : Char) : (scan.step c).IsAlike := by
  intro d hd
  rw [step] at hd
  cases hc : separates c with
  | true =>
    simp [kind?_eq_none_iff.2 hc, current_before_of_separates h hc] at hd
  | false =>
    rw [kind?_of_not_separates hc] at hd
    rcases List.mem_append.1 hd with hd | hd
    · exact mem_current_before h hd
    · obtain rfl := List.mem_singleton.1 hd
      exact ⟨hc, rfl⟩

/-- Reading a character changes nothing about the whole. -/
theorem whole_step (h : scan.IsAlike) (c : Char) (s : List Char) :
    (scan.step c).whole s = scan.whole (c :: s) := by
  rw [← whole_before h]
  cases hc : separates c with
  | true =>
    have hempty := current_before_of_separates h hc
    simp [whole, step, kind?_eq_none_iff.2 hc, hempty, runs_cons_of_separates hc]
  | false => simp [whole, step, kind?_of_not_separates hc]

theorem components_foldl (h : scan.IsAlike) (s : List Char) :
    (s.foldl step scan).flush.components = scan.whole s := by
  induction s generalizing scan with
  | nil => rw [whole, List.append_nil]; exact components_flush h
  | cons c s ih => rw [List.foldl_cons, ih (isAlike_step h c), whole_step h]

end Scan

theorem components_eq_map_runs (version : String) :
    components version = (runs version.toList).map readRun :=
  Scan.components_foldl (fun _ hc => absurd hc List.not_mem_nil) version.toList

theorem components_eq_map_readRun (version : String) :
    components version = (maximalRuns version.toList).map readRun := by
  rw [components_eq_map_runs, runs_eq_maximalRuns]

/-! ### Adding to a version -/

theorem Component.cmp_self (a : Component) : a.cmp a = .eq := by
  cases a with
  | number n => exact Nat.compare_eq_eq.2 rfl
  | text s => simp [cmp]

/-- A version that goes on comes later. -/
theorem cmpComponents_append (as bs : List Component) :
    cmpComponents as (as ++ bs) = if bs = [] then .eq else .lt := by
  induction as with
  | nil => cases bs <;> rfl
  | cons a as ih => rw [List.cons_append, cmpComponents, Component.cmp_self, ih]; rfl

theorem components_append (a b : String) :
    components (a ++ "." ++ b) = components a ++ components b := by
  have hchars : (a ++ "." ++ b).toList = a.toList ++ '.' :: b.toList := by simp
  have hdot : separates '.' = true := rfl
  rw [components_eq_map_runs, hchars, runs_append_cons_of_separates hdot, List.map_append,
    ← components_eq_map_runs, ← components_eq_map_runs]

theorem components_eq_nil_iff {version : String} :
    components version = [] ↔ ∀ c ∈ version.toList, separates c = true := by
  rw [components_eq_map_runs, List.map_eq_nil_iff, runs_eq_nil_iff]

/-- The components of a version are its maximal runs of one class, numbers where they are digits
with a value of 64 bits at most, and all of them together are the version without its separators.
What is added behind a dot only adds components, and makes the version later if it adds any. -/
theorem components_maximal_runs (version : String) :
    components version = (maximalRuns version.toList).map readRun ∧
    (maximalRuns version.toList).flatten
      = version.toList.filter (fun c => c ≠ '.' ∧ c ≠ '_') ∧
    ∀ tail : String,
      components (version ++ "." ++ tail) = components version ++ components tail ∧
      (compareLoosely version (version ++ "." ++ tail) = .lt ↔
        ∃ c ∈ tail.toList, c ≠ '.' ∧ c ≠ '_') := by
  have hplain : ∀ c : Char, separates c = false ↔ c ≠ '.' ∧ c ≠ '_' := by
    intro c
    simp [separates]
  refine ⟨components_eq_map_readRun version, ?_, fun tail => ⟨components_append version tail, ?_⟩⟩
  · rw [flatten_maximalRuns]
    refine List.filter_congr fun c _ => ?_
    simp [separates]
  · rw [compareLoosely, components_append, cmpComponents_append]
    have hnil : components tail = [] ↔ ¬ ∃ c ∈ tail.toList, c ≠ '.' ∧ c ≠ '_' := by
      rw [components_eq_nil_iff]
      simp [← hplain]
    by_cases h : components tail = []
    · simp [h, hnil.1 h]
    · simpa [h] using not_not.1 (mt hnil.2 h)

example : components "1_02..rc3-X" =
    [.number 1, .number 2, .text "rc", .number 3, .text "-X"] := by decide

end ReleaseGap.Version
