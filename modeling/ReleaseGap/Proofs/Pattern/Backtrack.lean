import Mathlib.Tactic.Common
import ReleaseGap.Pattern.Search

/-!
# Trying one way after the other

Trying the ways through a program one after the other, each one to its end, says what a program
prefers.
-/
namespace ReleaseGap.Pattern

/-- The ends of the marked group, as far as a way has passed them. -/
structure Ends where
  start : Option Nat
  stop : Option Nat
deriving DecidableEq, Repr

def Thread.ends (t : Thread) : Ends := ⟨t.markStart, t.markEnd⟩

/-- The place behind the next character. -/
def Place.past (p : Place) (c : Char) (rest : List Char) : Place := ⟨some c, rest, p.offset + 1⟩

/-- Tries the ways on from a step in the order of preference and answers the ends of the group on
the first one that is accepted, or that there is none.  Nothing is answered if more than `fuel`
steps would have to be passed on one way. -/
def backtrack (program : Program) : Nat → Nat → Ends → Place → Option (Option Ends)
  | 0, _, _, _ => none
  | fuel + 1, step, ends, place =>
    match program.getD step .fail with
    | .accept => some (some ends)
    | .fail => some none
    | .chars set next =>
      match place.after with
      | [] => some none
      | c :: rest =>
        if set.contains c then backtrack program fuel next ends (place.past c rest) else some none
    | .look l next => if l.holds place then backtrack program fuel next ends place else some none
    | .split first second =>
      match backtrack program fuel first ends place with
      | some none => backtrack program fuel second ends place
      | answer => answer
    | .markStart next => backtrack program fuel next { ends with start := some place.offset } place
    | .markEnd next => backtrack program fuel next { ends with stop := some place.offset } place

variable {program : Program} {place : Place}

theorem backtrack_succ {fuel step : Nat} {ends : Ends} {res : Option Ends}
    (h : backtrack program fuel step ends place = some res) :
    backtrack program (fuel + 1) step ends place = some res := by
  induction fuel generalizing step ends place res with
  | zero => cases h
  | succ fuel ih =>
    rw [backtrack] at h ⊢
    cases hstep : program.getD step .fail with
    | accept => rw [hstep] at h; exact h
    | fail => rw [hstep] at h; exact h
    | chars set next =>
      simp only [hstep] at h ⊢
      cases hafter : place.after with
      | nil => rw [hafter] at h; exact h
      | cons c rest =>
        simp only [hafter] at h ⊢
        split
        · rename_i hc
          rw [if_pos hc] at h
          exact ih h
        · rename_i hc
          rwa [if_neg hc] at h
    | look l next =>
      simp only [hstep] at h ⊢
      split
      · rename_i hl
        rw [if_pos hl] at h
        exact ih h
      · rename_i hl
        rwa [if_neg hl] at h
    | split first second =>
      simp only [hstep] at h ⊢
      cases hfirst : backtrack program fuel first ends place with
      | none => simp [hfirst] at h
      | some found =>
        rw [ih hfirst]
        cases found with
        | none => exact ih (by simpa [hfirst] using h)
        | some found => simpa [hfirst] using h
    | markStart next =>
      simp only [hstep] at h ⊢
      exact ih h
    | markEnd next =>
      simp only [hstep] at h ⊢
      exact ih h

/-- More fuel changes no answer. -/
theorem backtrack_mono {fuel more step : Nat} {ends : Ends} {res : Option Ends}
    (h : backtrack program fuel step ends place = some res) (hle : fuel ≤ more) :
    backtrack program more step ends place = some res := by
  induction hle with
  | refl => exact h
  | step _ ih => exact backtrack_succ ih

/-- Whether there is an answer, and whether it is a success, does not depend on the group. -/
theorem isSome_backtrack (program : Program) (place : Place) (fuel step : Nat) (ends ends' : Ends) :
    (backtrack program fuel step ends place).map Option.isSome =
      (backtrack program fuel step ends' place).map Option.isSome := by
  induction fuel generalizing step ends ends' place with
  | zero => rfl
  | succ fuel ih =>
    rw [backtrack, backtrack]
    cases program.getD step .fail with
    | accept => rfl
    | fail => rfl
    | chars set next =>
      cases place.after with
      | nil => rfl
      | cons c rest =>
        dsimp only
        split
        · exact ih _ next ends ends'
        · rfl
    | look l next =>
      dsimp only
      split
      · exact ih _ next ends ends'
      · rfl
    | split first second =>
      have hfirst := ih place first ends ends'
      have hsecond := ih place second ends ends'
      dsimp only
      cases h : backtrack program fuel first ends place with
      | none =>
        rw [h] at hfirst
        cases h' : backtrack program fuel first ends' place with
        | none => rfl
        | some found' => simp [h'] at hfirst
      | some found =>
        rw [h] at hfirst
        cases h' : backtrack program fuel first ends' place with
        | none => simp [h'] at hfirst
        | some found' => cases found <;> cases found' <;> simp_all
    | markStart next => exact ih _ next _ _
    | markEnd next => exact ih _ next _ _

/-- Whether some fuel suffices to try all ways on from a step. -/
def Halts (program : Program) (place : Place) (fuel step : Nat) : Prop :=
  ∃ ends res, backtrack program fuel step ends place = some res

/-- No way on from a step is accepted. -/
def IsDead (program : Program) (place : Place) (step : Nat) : Prop :=
  ∃ fuel ends, backtrack program fuel step ends place = some none

theorem Halts.mono {fuel more step : Nat} (h : Halts program place fuel step) (hle : fuel ≤ more) :
    Halts program place more step := by
  obtain ⟨ends, res, h⟩ := h
  exact ⟨ends, res, backtrack_mono h hle⟩

theorem Halts.exists_backtrack {fuel step : Nat} (h : Halts program place fuel step) (ends : Ends) :
    ∃ res, backtrack program fuel step ends place = some res := by
  obtain ⟨ends', res, h⟩ := h
  have hsame := isSome_backtrack program place fuel step ends ends'
  rw [h] at hsame
  cases hends : backtrack program fuel step ends place with
  | none => simp [hends] at hsame
  | some res => exact ⟨res, rfl⟩

/-- The least fuel that suffices gives the same answer. -/
theorem exists_least_backtrack {fuel step : Nat} {ends : Ends} {res : Option Ends}
    (h : backtrack program fuel step ends place = some res) :
    ∃ least < fuel, backtrack program (least + 1) step ends place = some res ∧
      ¬ Halts program place least step := by
  induction fuel with
  | zero => cases h
  | succ fuel ih =>
    by_cases hfuel : Halts program place fuel step
    · obtain ⟨res', hres'⟩ := hfuel.exists_backtrack ends
      obtain rfl : res' = res := Option.some.inj ((backtrack_succ hres').symm.trans h)
      obtain ⟨least, hlt, hleast⟩ := ih hres'
      exact ⟨least, by omega, hleast⟩
    · exact ⟨fuel, by omega, h, hfuel⟩

/-- Of a dead step every answer is that there is no way. -/
theorem IsDead.eq_none {step fuel : Nat} {ends : Ends} {res : Option Ends}
    (h : IsDead program place step) (hres : backtrack program fuel step ends place = some res) :
    res = none := by
  obtain ⟨fuel', ends', h⟩ := h
  have hres := backtrack_mono hres (Nat.le_max_left fuel fuel')
  have h := backtrack_mono h (Nat.le_max_right fuel fuel')
  have hsame := isSome_backtrack program place (max fuel fuel') step ends ends'
  rw [hres, h] at hsame
  cases res with
  | none => rfl
  | some found => simp at hsame

theorem eq_of_backtrack_accept {fuel step : Nat} {ends : Ends} {res : Option Ends}
    (hstep : program.getD step .fail = .accept)
    (h : backtrack program fuel step ends place = some res) : res = some ends := by
  cases fuel with
  | zero => cases h
  | succ fuel =>
    rw [backtrack, hstep] at h
    exact (Option.some.inj h).symm

theorem backtrack_past_of_chars {fuel step next : Nat} {ends : Ends} {res : Option Ends}
    {set : CharSet} {c : Char} {rest : List Char}
    (hstep : program.getD step .fail = .chars set next) (hafter : place.after = c :: rest)
    (h : backtrack program fuel step ends place = some res) :
    if set.contains c then
      ∃ fuel, backtrack program fuel next ends (place.past c rest) = some res
    else res = none := by
  cases fuel with
  | zero => cases h
  | succ fuel =>
    rw [backtrack, hstep] at h
    simp only [hafter] at h
    split
    · rename_i hc
      exact ⟨fuel, by rwa [if_pos hc] at h⟩
    · rename_i hc
      rw [if_neg hc] at h
      exact (Option.some.inj h).symm

theorem eq_none_of_backtrack_chars {fuel step next : Nat} {ends : Ends} {res : Option Ends}
    {set : CharSet} (hstep : program.getD step .fail = .chars set next) (hafter : place.after = [])
    (h : backtrack program fuel step ends place = some res) : res = none := by
  cases fuel with
  | zero => cases h
  | succ fuel =>
    rw [backtrack, hstep] at h
    simp only [hafter] at h
    exact (Option.some.inj h).symm

theorem isDead_of_size_le {step : Nat} (h : program.size ≤ step) : IsDead program place step := by
  refine ⟨1, ⟨none, none⟩, ?_⟩
  rw [backtrack, Array.getD_eq_getD_getElem?, Array.getElem?_eq_none h]
  rfl

/-- What trying some ways in their order answers. -/
inductive Resolves (program : Program) (place : Place) : List Thread → Option Ends → Prop
  | nil : Resolves program place [] none
  | found {t : Thread} {ts : List Thread} {ends : Ends} {fuel : Nat}
      (h : backtrack program fuel t.step t.ends place = some (some ends)) :
      Resolves program place (t :: ts) (some ends)
  | skip {t : Thread} {ts : List Thread} {res : Option Ends} {fuel : Nat}
      (h : backtrack program fuel t.step t.ends place = some none)
      (hrest : Resolves program place ts res) : Resolves program place (t :: ts) res

theorem Resolves.append_of_some {ts : List Thread} {ends : Ends}
    (h : Resolves program place ts (some ends)) (more : List Thread) :
    Resolves program place (ts ++ more) (some ends) := by
  generalize hres : some ends = res at h
  induction h with
  | nil => cases hres
  | found h => exact hres ▸ Resolves.found (hres ▸ h)
  | skip h _ ih => exact .skip h (ih hres)

theorem Resolves.append_of_none {ts more : List Thread} {res : Option Ends}
    (h : Resolves program place ts none) (hmore : Resolves program place more res) :
    Resolves program place (ts ++ more) res := by
  generalize hnone : none = r at h
  induction h with
  | nil => exact hmore
  | found h => cases hnone
  | skip h _ ih => exact .skip h (ih hnone)

theorem resolves_singleton {t : Thread} {res : Option Ends} {fuel : Nat}
    (h : backtrack program fuel t.step t.ends place = some res) :
    Resolves program place [t] res := by
  cases res with
  | none => exact .skip h .nil
  | some ends => exact .found h

end ReleaseGap.Pattern
