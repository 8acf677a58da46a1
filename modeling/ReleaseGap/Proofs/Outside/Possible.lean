import ReleaseGap.Proofs.Outside.Constant

/-!
# Possible results

What a session may give, whatever the outside answers.  A result of one session after another comes
of a possible result of the first.
-/
namespace ReleaseGap.Session

variable {α β : Type}

/-- Whether a session gives a result in some world, whatever was asked there before. -/
def CanGive (s : Session α) (a : α) : Prop :=
  ∃ world past, (s.runFrom world past).1 = a

theorem canGive_pure_iff {a b : α} : (pure a : Session α).CanGive b ↔ b = a := by
  constructor
  · rintro ⟨world, past, rfl⟩
    rfl
  · rintro rfl
    exact ⟨⟨fun _ _ => .unreachable, fun _ _ => .notFound⟩, [], rfl⟩

theorem canGive_result (s : Session α) (reply : Request → Reply) (outcome : Call → Outcome) :
    s.CanGive (s.result reply outcome) :=
  ⟨.constant reply outcome, [], fst_runFrom_constant s []⟩

theorem exists_canGive_of_bind {s : Session α} {f : α → Session β} {b : β}
    (h : (s >>= f).CanGive b) : ∃ a, s.CanGive a ∧ (f a).CanGive b := by
  obtain ⟨world, past, rfl⟩ := h
  rw [runFrom_bind]
  exact ⟨_, ⟨world, past, rfl⟩, _, _, rfl⟩

theorem exists_canGive_of_bind_pure {s : Session α} {f : α → β} {b : β}
    (h : (s >>= fun a => pure (f a)).CanGive b) : ∃ a, s.CanGive a ∧ b = f a := by
  obtain ⟨a, ha, hb⟩ := exists_canGive_of_bind h
  exact ⟨a, ha, canGive_pure_iff.1 hb⟩

/-- What is made of the members of a list one after another is possible for each of them. -/
theorem exists_canGive_of_mem_mapM {f : α → Session β} {b : β} {l : List α} {results : List β}
    (h : (l.mapM f).CanGive results) (hb : b ∈ results) : ∃ a ∈ l, (f a).CanGive b := by
  induction l generalizing results with
  | nil =>
    obtain rfl := canGive_pure_iff.1 h
    cases hb
  | cons first l ih =>
    rw [List.mapM_cons] at h
    obtain ⟨b', hfirst, hrest⟩ := exists_canGive_of_bind h
    obtain ⟨others, hothers, rfl⟩ := exists_canGive_of_bind_pure hrest
    rcases List.mem_cons.1 hb with rfl | hb
    · exact ⟨first, List.mem_cons_self, hfirst⟩
    · obtain ⟨a, ha, hgives⟩ := ih hothers hb
      exact ⟨a, List.mem_cons_of_mem _ ha, hgives⟩

end ReleaseGap.Session
