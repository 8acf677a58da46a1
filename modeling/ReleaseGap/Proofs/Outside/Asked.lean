import ReleaseGap.Proofs.Outside.Constant

/-!
# What a session asks

In every world the questions of a session come behind those that were asked before it.  A polite
fetch asks once, and a second time exactly if the first reply is a failure.
-/
namespace ReleaseGap.Session

variable {α : Type} {allowed : String → Prop}

/-- What is asked by a polite fetch of an address. -/
def fetchQuestions (world : World) (past : List Question) (url : String) : List Question :=
  let tries := if (world.reply past (.get url)).text? = none then 2 else 1
  List.replicate tries (.request (.get url))

/-- The text that a polite fetch of an address comes to: that of the first reply, or of the second
one if the first is a failure. -/
def textAt? (world : World) (past : List Question) (url : String) : Option String :=
  (world.reply past (.get url)).text?.or
    (world.reply (past ++ [.request (.get url)]) (.get url)).text?

theorem runFrom_fetchPolitely (world : World) (past : List Question) (url : String) :
    (fetchPolitely url).runFrom world past
      = (textAt? world past url, past ++ fetchQuestions world past url) := by
  have hfetch : ∀ past, (fetch url).runFrom world past
      = ((world.reply past (.get url)).text?, past ++ [.request (.get url)]) := fun _ => rfl
  rw [fetchPolitely, runFrom_bind, hfetch, textAt?, fetchQuestions]
  cases htext : (world.reply past (.get url)).text? with
  | some text => simp
  | none =>
    simp only [hfetch, Option.none_or, if_true, List.append_assoc]
    rfl

/-- A session asks behind the past, and fetches there only what it may fetch. -/
theorem FetchesOnly.exists_asked {s : Session α} (hs : s.FetchesOnly allowed) (world : World)
    (past : List Question) : ∃ asked, (s.runFrom world past).2 = past ++ asked ∧
      ∀ url, .request (.get url) ∈ asked → allowed url := by
  induction s generalizing past with
  | done a => exact ⟨[], (List.append_nil past).symm, fun _ h => absurd h List.not_mem_nil⟩
  | request r next ih =>
    cases r with
    | get url =>
      obtain ⟨asked, hasked, hallowed⟩ :=
        ih (world.reply past (.get url)) (hs.2 _) (past ++ [.request (.get url)])
      refine ⟨.request (.get url) :: asked, hasked.trans (List.append_cons past _ asked).symm,
        fun other hother => ?_⟩
      rcases List.mem_cons.1 hother with heq | hother
      · cases heq
        exact hs.1
      · exact hallowed other hother
    | post url body => exact hs.elim
  | call c next ih =>
    obtain ⟨asked, hasked, hallowed⟩ := ih (world.outcome past c) (hs _) (past ++ [.call c])
    refine ⟨.call c :: asked, hasked.trans (List.append_cons past _ asked).symm,
      fun other hother => ?_⟩
    exact hallowed other (List.mem_of_ne_of_mem (by simp) hother)

theorem FetchesOnly.mapM {β : Type} {f : α → Session β} {l : List α}
    (h : ∀ a ∈ l, (f a).FetchesOnly allowed) : (l.mapM f).FetchesOnly allowed := by
  induction l with
  | nil => exact fetchesOnly_pure _
  | cons a l ih =>
    obtain ⟨ha, hl⟩ := List.forall_mem_cons.1 h
    rw [List.mapM_cons]
    exact ha.bind fun _ => (ih hl).bind fun _ => fetchesOnly_pure _

end ReleaseGap.Session
