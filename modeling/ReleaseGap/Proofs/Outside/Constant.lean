import ReleaseGap.Outside.Fetch

/-!
# Worlds with fixed answers

Where every question always gets the same answer, the result of a session does not depend on what
was asked before.  It depends on the answers for the addresses that the session may fetch, and on
those for no others.
-/
namespace ReleaseGap.Session

variable {α β : Type} {reply reply' : Request → Reply} {outcome : Call → Outcome}

/-- The result of a session when every question always gets the same answer. -/
def result (reply : Request → Reply) (outcome : Call → Outcome) : Session α → α
  | .done a => a
  | .request r next => (next (reply r)).result reply outcome
  | .call c next => (next (outcome c)).result reply outcome

theorem fst_runFrom_constant (s : Session α) (past : List Question) :
    (s.runFrom (.constant reply outcome) past).1 = s.result reply outcome := by
  induction s generalizing past with
  | done a => rfl
  | request r next ih => exact ih _ _
  | call c next ih => exact ih _ _

@[simp] theorem result_pure (a : α) : (pure a : Session α).result reply outcome = a := rfl

@[simp] theorem result_bind (s : Session α) (f : α → Session β) :
    (s >>= f).result reply outcome = (f (s.result reply outcome)).result reply outcome := by
  change (s.bind f).result reply outcome = _
  induction s with
  | done a => rfl
  | request r next ih => exact ih _
  | call c next ih => exact ih _

@[simp] theorem result_mapM (f : α → Session β) (list : List α) :
    (list.mapM f).result reply outcome = list.map fun a => (f a).result reply outcome := by
  induction list with
  | nil => rfl
  | cons a list ih => simp only [List.mapM_cons, result_bind, ih, result_pure, List.map_cons]

/-- Whether a session, however it is answered, sends no request but to fetch an address that is
allowed. -/
def FetchesOnly (allowed : String → Prop) : Session α → Prop
  | .done _ => True
  | .request (.get url) next => allowed url ∧ ∀ answer, (next answer).FetchesOnly allowed
  | .request (.post _ _) _ => False
  | .call _ next => ∀ answer, (next answer).FetchesOnly allowed

variable {allowed allowed' : String → Prop}

theorem fetchesOnly_pure (a : α) : (pure a : Session α).FetchesOnly allowed := trivial

theorem FetchesOnly.bind {s : Session α} {f : α → Session β} (hs : s.FetchesOnly allowed)
    (hf : ∀ a, (f a).FetchesOnly allowed) : (s >>= f).FetchesOnly allowed := by
  change (s.bind f).FetchesOnly allowed
  induction s with
  | done a => exact hf a
  | request r next ih =>
    cases r with
    | get url => exact ⟨hs.1, fun answer => ih answer (hs.2 answer)⟩
    | post url body => exact hs
  | call c next ih => exact fun answer => ih answer (hs answer)

theorem FetchesOnly.mono {s : Session α} (hs : s.FetchesOnly allowed)
    (h : ∀ url, allowed url → allowed' url) : s.FetchesOnly allowed' := by
  induction s with
  | done a => trivial
  | request r next ih =>
    cases r with
    | get url => exact ⟨h url hs.1, fun answer => ih answer (hs.2 answer)⟩
    | post url body => exact hs
  | call c next ih => exact fun answer => ih answer (hs answer)

theorem fetchesOnly_fetch (url : String) : (fetch url).FetchesOnly (· = url) :=
  FetchesOnly.bind ⟨rfl, fun _ => trivial⟩ fun _ => trivial

theorem fetchesOnly_fetchPolitely (url : String) : (fetchPolitely url).FetchesOnly (· = url) := by
  refine (fetchesOnly_fetch url).bind fun text => ?_
  cases text with
  | none => exact fetchesOnly_fetch url
  | some text => trivial

theorem fetchesOnly_run (c : Call) : (run c).FetchesOnly allowed := fun _ => trivial

/-- Answers that agree wherever a session may look lead it to the same result. -/
theorem FetchesOnly.result_eq {s : Session α} (hs : s.FetchesOnly allowed)
    (h : ∀ url, allowed url → reply (.get url) = reply' (.get url)) (outcome : Call → Outcome) :
    s.result reply outcome = s.result reply' outcome := by
  induction s with
  | done a => rfl
  | request r next ih =>
    cases r with
    | get url =>
      rw [result, result, h url hs.1]
      exact ih _ (hs.2 _)
    | post url body => exact hs.elim
  | call c next ih => exact ih _ (hs _)

end ReleaseGap.Session
