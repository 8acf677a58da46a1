import ReleaseGap.Proofs.Pattern.Backtrack

/-!
# Following all ways at once

The search does not try the ways through a program again and again but follows all of them at once,
and drops a way that comes to a step where a preferred one was before.  It finds the same: what is
dropped would fail where the preferred way failed.
-/
namespace ReleaseGap.Pattern

variable {program : Program} {place : Place}

/-- A way stands at a step that reads a character or accepts. -/
def Thread.Waits (program : Program) (t : Thread) : Prop :=
  program.getD t.step .fail = .accept ∨ ∃ set next, program.getD t.step .fail = .chars set next

namespace Threads

/-- Whether some way stands at a step or has passed it; there is no way behind the last step. -/
def HasVisited (ts : Threads) (step : Nat) : Prop := ts.visited.getD step true = true

/-- The number of steps that no way has passed. -/
def unvisited (ts : Threads) : Nat := ts.visited.toList.count false

/-- Notes that a way has come to a step. -/
def visit (ts : Threads) (step : Nat) : Threads :=
  { ts with visited := ts.visited.set! step true }

theorem hasVisited_visit {ts : Threads} {step v : Nat} :
    (ts.visit step).HasVisited v ↔ v = step ∨ ts.HasVisited v := by
  simp only [HasVisited, visit, Array.getD_eq_getD_getElem?, Array.set!_eq_setIfInBounds,
    Array.getElem?_setIfInBounds]
  by_cases h : step = v
  · subst h
    by_cases hlt : step < ts.visited.size <;> simp [hlt]
  · simp [h, Ne.symm h]

theorem unvisited_visit {ts : Threads} {step : Nat} (h : ¬ ts.HasVisited step) :
    (ts.visit step).unvisited + 1 = ts.unvisited := by
  have hlt : step < ts.visited.toList.length := by
    by_contra hle
    rw [Array.length_toList] at hle
    exact h (by simp [HasVisited, Array.getD_eq_getD_getElem?, hle])
  have hfalse : ts.visited.toList[step] = false := by
    rw [Array.length_toList] at hlt
    simpa [HasVisited, Array.getD_eq_getD_getElem?, hlt] using h
  have hpos : 0 < ts.visited.toList.count false :=
    List.count_pos_iff.2 (hfalse ▸ List.getElem_mem hlt)
  rw [unvisited, visit, Array.set!_eq_setIfInBounds, Array.toList_setIfInBounds, List.count_set hlt,
    hfalse]
  change ts.visited.toList.count false - 1 + 0 + 1 = ts.visited.toList.count false
  omega

theorem unvisited_pos {ts : Threads} {step : Nat} (h : ¬ ts.HasVisited step) :
    0 < ts.unvisited := by
  have := unvisited_visit h
  omega

theorem follow_of_hasVisited {t : Thread} {ts : Threads} (h : ts.HasVisited t.step) (fuel : Nat) :
    ts.follow program place fuel t = ts := by
  cases fuel with
  | zero => rfl
  | succ fuel => exact if_pos h

theorem follow_of_not_hasVisited {t : Thread} {ts : Threads} (h : ¬ ts.HasVisited t.step)
    (fuel : Nat) :
    ts.follow program place (fuel + 1) t =
      match program.getD t.step .fail with
      | .chars _ _ => { ts.visit t.step with list := ts.list.push t }
      | .accept => { ts.visit t.step with list := ts.list.push t }
      | .fail => ts.visit t.step
      | .look l next =>
        if l.holds place then (ts.visit t.step).follow program place fuel { t with step := next }
        else ts.visit t.step
      | .split first second =>
        ((ts.visit t.step).follow program place fuel { t with step := first }).follow
          program place fuel { t with step := second }
      | .markStart next =>
        (ts.visit t.step).follow program place fuel
          { t with step := next, markStart := some place.offset }
      | .markEnd next =>
        (ts.visit t.step).follow program place fuel
          { t with step := next, markEnd := some place.offset } := by
  exact if_neg h

/-- Ways were added that wait, and no step became unvisited. -/
structure Extends (program : Program) (ts ts' : Threads) : Prop where
  list : ∃ added, ts'.list.toList = ts.list.toList ++ added ∧ ∀ t ∈ added, t.Waits program
  unvisited : ts'.unvisited ≤ ts.unvisited

theorem Extends.refl (ts : Threads) : Extends program ts ts :=
  ⟨⟨[], (List.append_nil _).symm, fun _ h => absurd h List.not_mem_nil⟩, Nat.le_refl _⟩

theorem Extends.trans {ts ts' ts'' : Threads} (h : Extends program ts ts')
    (h' : Extends program ts' ts'') : Extends program ts ts'' := by
  obtain ⟨⟨added, hlist, hwaits⟩, hle⟩ := h
  obtain ⟨⟨added', hlist', hwaits'⟩, hle'⟩ := h'
  refine ⟨⟨added ++ added', by rw [hlist', hlist, List.append_assoc], fun t ht => ?_⟩,
    Nat.le_trans hle' hle⟩
  exact (List.mem_append.1 ht).elim (hwaits t) (hwaits' t)

theorem extends_visit (program : Program) {ts : Threads} {step : Nat} (h : ¬ ts.HasVisited step) :
    Extends program ts (ts.visit step) := by
  have hcount := unvisited_visit h
  exact ⟨(Extends.refl ts).list, by omega⟩

theorem extends_push {ts : Threads} {t : Thread} (h : ¬ ts.HasVisited t.step)
    (ht : t.Waits program) :
    Extends program ts { ts.visit t.step with list := ts.list.push t } :=
  ⟨⟨[t], by simp, by simpa using ht⟩, (extends_visit program h).unvisited⟩

theorem extends_follow (program : Program) (place : Place) (fuel : Nat) (t : Thread)
    (ts : Threads) :
    Extends program ts (ts.follow program place fuel t) := by
  induction fuel generalizing t ts with
  | zero => exact .refl ts
  | succ fuel ih =>
    by_cases h : ts.HasVisited t.step
    · rw [follow_of_hasVisited h]
      exact .refl ts
    · have hvisit := extends_visit program h
      rw [follow_of_not_hasVisited h]
      cases hstep : program.getD t.step .fail with
      | accept => exact extends_push h (.inl hstep)
      | fail => exact hvisit
      | chars set next => exact extends_push h (.inr ⟨set, next, hstep⟩)
      | look l next =>
        dsimp only
        split
        · exact hvisit.trans (ih _ _)
        · exact hvisit
      | split first second => exact (hvisit.trans (ih _ _)).trans (ih _ _)
      | markStart next => exact hvisit.trans (ih _ _)
      | markEnd next => exact hvisit.trans (ih _ _)

theorem Extends.waits {ts : Threads} (h : Extends program (.none program) ts) :
    ∀ t ∈ ts.list.toList, t.Waits program := by
  obtain ⟨⟨added, hlist, hwaits⟩, -⟩ := h
  have hadded : ts.list.toList = added := hlist
  exact hadded ▸ hwaits

/-- What is known of the steps that no way is to be followed from again: they lead nowhere, or the
way followed came over them and will not come back to them with the fuel that it needs. -/
def IsExhausted (program : Program) (place : Place) (fuel : Nat) (ts : Threads) : Prop :=
  ∀ v, ts.HasVisited v → IsDead program place v ∨ ¬ Halts program place fuel v

theorem IsExhausted.visit {ts : Threads} {fuel less step : Nat}
    (h : ts.IsExhausted program place fuel) (hle : less ≤ fuel)
    (hstep : ¬ Halts program place less step) : (ts.visit step).IsExhausted program place less := by
  intro v hv
  rcases hasVisited_visit.1 hv with rfl | hv
  · exact .inr hstep
  · exact (h v hv).imp_right (mt fun h => h.mono hle)

/-- Ways were followed that answer a result together with those before them, and if that is no
success, the steps visited meanwhile are dead. -/
structure Settles (program : Program) (place : Place) (ts ts' : Threads) (res : Option Ends) :
    Prop where
  resolves : Resolves program place ts'.list.toList res
  isDead : res = .none → ∀ v, ts'.HasVisited v → ts.HasVisited v ∨ IsDead program place v

namespace Settles

variable {ts ts' ts'' : Threads} {res : Option Ends}

theorem refl (h : Resolves program place ts.list.toList res) : Settles program place ts ts res :=
  ⟨h, fun _ _ hv => .inl hv⟩

theorem push {t : Thread} {fuel : Nat} (h : Resolves program place ts.list.toList .none)
    (ht : backtrack program fuel t.step t.ends place = some res) :
    Settles program place ts { ts with list := ts.list.push t } res := by
  refine ⟨?_, fun _ _ hv => .inl hv⟩
  rw [Array.toList_push]
  exact h.append_of_none (resolves_singleton ht)

theorem of_visit {step : Nat} (h : Settles program place (ts.visit step) ts' res)
    (hstep : res = .none → IsDead program place step) : Settles program place ts ts' res := by
  refine ⟨h.resolves, fun hnone v hv => ?_⟩
  rcases h.isDead hnone v hv with hv | hv
  · rcases hasVisited_visit.1 hv with rfl | hv
    · exact .inr (hstep hnone)
    · exact .inl hv
  · exact .inr hv

theorem trans (h : Settles program place ts ts' .none) (h' : Settles program place ts' ts'' res) :
    Settles program place ts ts'' res :=
  ⟨h'.resolves, fun hnone v hv => (h'.isDead hnone v hv).elim (h.isDead rfl v) .inr⟩

/-- What comes behind a success changes nothing. -/
theorem extend {ends : Ends} (h : Settles program place ts ts' (some ends))
    (hextends : Extends program ts' ts'') : Settles program place ts ts'' (some ends) := by
  obtain ⟨added, hadded, -⟩ := hextends.list
  exact ⟨hadded ▸ h.resolves.append_of_some added, fun hnone => by cases hnone⟩

theorem isExhausted {fuel : Nat} (h : Settles program place ts ts' .none)
    (hts : ts.IsExhausted program place fuel) : ts'.IsExhausted program place fuel :=
  fun v hv => (h.isDead rfl v hv).elim (hts v) .inl

end Settles

/-- A way that is followed adds what trying it would answer. -/
theorem follow_settles {steps fuel : Nat} {t : Thread} {ts : Threads} {res : Option Ends}
    (hres : backtrack program steps t.step t.ends place = some res) (hfuel : ts.unvisited ≤ fuel)
    (hlist : Resolves program place ts.list.toList .none)
    (hvisited : ts.IsExhausted program place steps) :
    Settles program place ts (ts.follow program place fuel t) res := by
  induction steps using Nat.strongRecOn generalizing fuel t ts res with
  | _ steps ih =>
  by_cases hold : ts.HasVisited t.step
  · -- A step that is visited and yet reached is dead.
    have hdead : IsDead program place t.step :=
      (hvisited t.step hold).resolve_right fun hnot => hnot ⟨t.ends, res, hres⟩
    obtain rfl := hdead.eq_none hres
    rw [follow_of_hasVisited hold]
    exact .refl hlist
  · -- The least fuel tells the step apart from the steps that are passed behind it.
    obtain ⟨m, hm, hleast, hnot⟩ := exists_least_backtrack hres
    obtain ⟨fuel, rfl⟩ : ∃ f, fuel = f + 1 := ⟨fuel - 1, by have := unvisited_pos hold; omega⟩
    have hfuel : (ts.visit t.step).unvisited ≤ fuel := by
      have := unvisited_visit hold
      omega
    have hvisited := hvisited.visit (Nat.le_of_lt hm) hnot
    refine Settles.of_visit ?_ fun hnone => ⟨m + 1, t.ends, hnone ▸ hleast⟩
    rw [follow_of_not_hasVisited hold]
    have hpush : Settles program place (ts.visit t.step)
        { ts.visit t.step with list := ts.list.push t } res := .push hlist hleast
    rw [backtrack] at hleast
    cases hstep : program.getD t.step .fail with
    | accept => exact hpush
    | fail =>
      rw [hstep] at hleast
      obtain rfl := Option.some.inj hleast
      exact .refl hlist
    | chars set next => exact hpush
    | look l next =>
      simp only [hstep] at hleast
      dsimp only
      split
      · rename_i hl
        exact ih m hm (by rwa [if_pos hl] at hleast) hfuel hlist hvisited
      · rename_i hl
        rw [if_neg hl] at hleast
        obtain rfl := Option.some.inj hleast
        exact .refl hlist
    | split first second =>
      simp only [hstep] at hleast
      dsimp only
      cases hfirst : backtrack program m first t.ends place with
      | none => simp [hfirst] at hleast
      | some found =>
        have hsettles := ih m hm (t := { t with step := first }) hfirst hfuel hlist hvisited
        cases found with
        | some ends =>
          obtain rfl : some ends = res := by simpa [hfirst] using hleast
          exact hsettles.extend (extends_follow program place fuel _ _)
        | none =>
          have hsecond : backtrack program m second t.ends place = some res := by
            simpa [hfirst] using hleast
          have hextends := extends_follow program place fuel { t with step := first }
            (ts.visit t.step)
          exact hsettles.trans (ih m hm (t := { t with step := second }) hsecond
            (Nat.le_trans hextends.unvisited hfuel) hsettles.resolves
            (hsettles.isExhausted hvisited))
    | markStart next =>
      rw [hstep] at hleast
      exact ih m hm hleast hfuel hlist hvisited
    | markEnd next =>
      rw [hstep] at hleast
      exact ih m hm hleast hfuel hlist hvisited

theorem follow_settles_of_dead {steps : Nat} {t : Thread} {ts : Threads} {res : Option Ends}
    (hres : backtrack program steps t.step t.ends place = some res)
    (hsize : ts.unvisited ≤ program.size) (hlist : Resolves program place ts.list.toList .none)
    (hdead : ∀ v, ts.HasVisited v → IsDead program place v) :
    Resolves program place (ts.follow program place program.size t).list.toList res ∧
    (res = .none → ∀ v, (ts.follow program place program.size t).HasVisited v →
      IsDead program place v) := by
  have hsettles := follow_settles hres hsize hlist fun v hv => .inl (hdead v hv)
  exact ⟨hsettles.resolves, fun hnone v hv => (hsettles.isDead hnone v hv).elim (hdead v) id⟩

theorem unvisited_none (program : Program) : (Threads.none program).unvisited = program.size := by
  simp [Threads.none, unvisited]

theorem isDead_of_hasVisited_none {v : Nat} (h : (Threads.none program).HasVisited v) :
    IsDead program place v := by
  refine isDead_of_size_le (Nat.not_lt.1 fun hlt => ?_)
  simp [Threads.none, HasVisited, Array.getD_eq_getD_getElem?, hlt] at h

end Threads

namespace Threads

theorem extends_advance (program : Program) (place : Place) (c : Char) (threads : List Thread)
    (ts : Threads) :
    Extends program ts (advance program c place threads ts).2 := by
  induction threads generalizing ts with
  | nil => exact .refl ts
  | cons t threads ih =>
    rw [advance]
    split
    · exact .refl ts
    · split
      · exact (extends_follow program place _ _ ts).trans (ih _)
      · exact ih ts
    · exact ih ts

/-- Moving the ways past a character answers what trying them would: a success of a way that goes
on, or else of the way that is accepted where it stands. -/
theorem advance_resolves {c : Char} {rest : List Char} (hafter : place.after = c :: rest)
    {threads : List Thread} {ts : Threads} {res : Option Ends}
    (hwaits : ∀ t ∈ threads, t.Waits program) (hres : Resolves program place threads res)
    (hsize : ts.unvisited ≤ program.size)
    (hlist : Resolves program (place.past c rest) ts.list.toList .none)
    (hdead : ∀ v, ts.HasVisited v → IsDead program (place.past c rest) v) :
    let moved := advance program c (place.past c rest) threads ts
    ∃ later, Resolves program (place.past c rest) moved.2.list.toList later ∧
      res = later.or (moved.1.map Thread.ends) := by
  induction threads generalizing ts with
  | nil =>
    cases hres
    exact ⟨.none, hlist, rfl⟩
  | cons t threads ih =>
    obtain ⟨ht, hwaits⟩ := List.forall_mem_cons.1 hwaits
    rcases ht with hstep | ⟨set, next, hstep⟩
    · rw [advance, hstep]
      cases hres with
      | found h => exact ⟨.none, hlist, eq_of_backtrack_accept hstep h⟩
      | skip h => cases eq_of_backtrack_accept hstep h
    · rw [advance, hstep]
      dsimp only
      cases hres with
      | found h =>
        have hpast := backtrack_past_of_chars hstep hafter h
        split
        · rename_i hc
          rw [if_pos hc] at hpast
          obtain ⟨fuel, hpast⟩ := hpast
          obtain ⟨hfound, -⟩ := follow_settles_of_dead (t := { t with step := next }) hpast hsize
            hlist hdead
          obtain ⟨added, hadded, -⟩ :=
            (extends_advance program (place.past c rest) c threads _).list
          rw [hadded]
          exact ⟨_, hfound.append_of_some added, rfl⟩
        · rename_i hc
          rw [if_neg hc] at hpast
          cases hpast
      | skip h hrest =>
        have hpast := backtrack_past_of_chars hstep hafter h
        split
        · rename_i hc
          rw [if_pos hc] at hpast
          obtain ⟨fuel, hpast⟩ := hpast
          obtain ⟨hfailed, hnew⟩ := follow_settles_of_dead (t := { t with step := next }) hpast
            hsize hlist hdead
          have hextends := extends_follow program (place.past c rest) program.size
            { t with step := next } ts
          exact ih hwaits hrest (Nat.le_trans hextends.unvisited hsize) hfailed (hnew rfl)
        · exact ih hwaits hrest hsize hlist hdead

end Threads

/-- At the end of the text only a way that is accepted where it stands succeeds. -/
theorem find?_accept_resolves {threads : List Thread} {res : Option Ends}
    (hafter : place.after = []) (hwaits : ∀ t ∈ threads, t.Waits program)
    (hres : Resolves program place threads res) :
    (threads.find? fun t => program.getD t.step .fail matches .accept).map Thread.ends = res := by
  induction threads with
  | nil =>
    cases hres
    rfl
  | cons t threads ih =>
    obtain ⟨ht, hwaits⟩ := List.forall_mem_cons.1 hwaits
    rcases ht with hstep | ⟨set, next, hstep⟩
    · rw [List.find?_cons, hstep]
      cases hres with
      | found h => exact (eq_of_backtrack_accept hstep h).symm
      | skip h => cases eq_of_backtrack_accept hstep h
    · rw [List.find?_cons, hstep]
      cases hres with
      | found h => cases eq_none_of_backtrack_chars hstep hafter h
      | skip h hrest => exact ih hwaits hrest

theorem runThreads_resolves {text : List Char} {threads : List Thread} {res : Option Ends}
    (hafter : place.after = text) (hwaits : ∀ t ∈ threads, t.Waits program)
    (hres : Resolves program place threads res) (best : Option Thread) :
    (runThreads program best threads place.offset text).map Thread.ends =
      res.or (best.map Thread.ends) := by
  induction text generalizing place threads res best with
  | nil =>
    rw [runThreads, Option.map_or]
    exact congrArg (Option.or · _) (find?_accept_resolves hafter hwaits hres)
  | cons c rest ih =>
    obtain ⟨later, hlater, rfl⟩ := Threads.advance_resolves hafter hwaits hres
      (Nat.le_of_eq (Threads.unvisited_none program)) .nil
      fun v => Threads.isDead_of_hasVisited_none
    have hextends := Threads.extends_advance program (place.past c rest) c threads (.none program)
    have hafter : (place.past c rest).after = rest := rfl
    rw [runThreads, Option.or_assoc, ← Option.map_or]
    exact ih hafter hextends.waits hlater _

/-- A search for a match at a place finds what trying all ways finds. -/
theorem matchAt?_of_backtrack {start steps : Nat} {res : Option Ends}
    (h : backtrack program steps start ⟨none, none⟩ place = some res) :
    (matchAt? start program place).map Thread.ends = res := by
  let t : Thread := ⟨start, none, none⟩
  have hstart : backtrack program steps t.step t.ends place = some res := h
  obtain ⟨hresolves, -⟩ := Threads.follow_settles_of_dead hstart
    (Nat.le_of_eq (Threads.unvisited_none program)) .nil fun v => Threads.isDead_of_hasVisited_none
  have hextends := Threads.extends_follow program place program.size t (.none program)
  exact (runThreads_resolves rfl hextends.waits hresolves none).trans Option.or_none

end ReleaseGap.Pattern
