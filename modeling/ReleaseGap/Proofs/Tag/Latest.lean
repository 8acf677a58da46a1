import Mathlib.Data.List.Induction
import Mathlib.Order.Lattice
import ReleaseGap.Proofs.Version.Order
import ReleaseGap.Tag.Release

/-!
# The latest of some candidates

Of the candidates for a release the first one with the greatest version is taken, and with it the
tag that carries this very version last.
-/
namespace ReleaseGap.Release

variable {α : Type}

theorem map_fst_addCandidate (version : String) (tag : α) (seen : List (String × α)) :
    (addCandidate version tag seen).map Prod.fst =
      if version ∈ seen.map Prod.fst then seen.map Prod.fst
      else seen.map Prod.fst ++ [version] := by
  induction seen with
  | nil => rfl
  | cons c seen ih =>
    obtain ⟨v, t⟩ := c
    by_cases hv : v = version
    · simp [addCandidate, hv]
    · have hne : version ≠ v := Ne.symm hv
      rw [addCandidate, if_neg hv, List.map_cons, ih]
      by_cases hmem : version ∈ seen.map Prod.fst <;> simp [hmem, hne]

/-- A version keeps its tag unless it is the version added. -/
theorem mem_addCandidate {version v : String} {tag t : α} {seen : List (String × α)}
    (hseen : (seen.map Prod.fst).Nodup) (h : (v, t) ∈ addCandidate version tag seen) :
    (v = version ∧ t = tag) ∨ (v ≠ version ∧ (v, t) ∈ seen) := by
  induction seen with
  | nil => exact .inl (by simpa [addCandidate] using h)
  | cons c seen ih =>
    obtain ⟨w, u⟩ := c
    obtain ⟨hw, hseen⟩ := List.nodup_cons.1 hseen
    by_cases hwv : w = version
    · subst hwv
      rw [addCandidate, if_pos rfl] at h
      rcases List.mem_cons.1 h with heq | h
      · exact .inl (Prod.mk.inj heq)
      · have hv : v ≠ w := fun hv => hw (List.mem_map.2 ⟨_, h, hv⟩)
        exact .inr ⟨hv, List.mem_cons_of_mem _ h⟩
    · rw [addCandidate, if_neg hwv] at h
      rcases List.mem_cons.1 h with heq | h
      · obtain ⟨rfl, rfl⟩ := Prod.mk.inj heq
        exact .inr ⟨hwv, List.mem_cons_self⟩
      · exact (ih hseen h).imp_right fun ⟨hv, hmem⟩ => ⟨hv, List.mem_cons_of_mem _ hmem⟩

theorem distinct_concat (candidates : List (String × α)) (c : String × α) :
    distinct (candidates ++ [c]) = addCandidate c.1 c.2 (distinct candidates) := by
  simp [distinct]

theorem nodup_distinct (candidates : List (String × α)) :
    ((distinct candidates).map Prod.fst).Nodup := by
  induction candidates using List.reverseRecOn with
  | nil => exact List.nodup_nil
  | append_singleton candidates c ih =>
    rw [distinct_concat, map_fst_addCandidate]
    split
    · exact ih
    · rename_i hnew
      exact List.nodup_append.2 ⟨ih, by simp, by grind⟩

theorem mem_map_fst_distinct (candidates : List (String × α)) (v : String) :
    v ∈ (distinct candidates).map Prod.fst ↔ v ∈ candidates.map Prod.fst := by
  induction candidates using List.reverseRecOn with
  | nil => rfl
  | append_singleton candidates c ih =>
    rw [distinct_concat, map_fst_addCandidate, List.map_append, List.mem_append, ← ih]
    split
    · rename_i hold
      refine ⟨.inl, fun h => h.elim id fun hv => ?_⟩
      obtain rfl : v = c.1 := by simpa using hv
      exact hold
    · simp

/-- The tag of a version is the one that was seen last. -/
theorem exists_last_of_mem_distinct {candidates : List (String × α)} {v : String} {t : α}
    (h : (v, t) ∈ distinct candidates) :
    ∃ before after, candidates = before ++ (v, t) :: after ∧ ∀ c ∈ after, c.1 ≠ v := by
  induction candidates using List.reverseRecOn with
  | nil => cases h
  | append_singleton candidates c ih =>
    rw [distinct_concat] at h
    rcases mem_addCandidate (nodup_distinct candidates) h with ⟨hv, ht⟩ | ⟨hv, hmem⟩
    · exact ⟨candidates, [], by rw [hv, ht], fun c hc => absurd hc List.not_mem_nil⟩
    · obtain ⟨before, after, hsplit, hafter⟩ := ih hmem
      refine ⟨before, after ++ [c], by simp [hsplit], fun d hd => ?_⟩
      rcases List.mem_append.1 hd with hd | hd
      · exact hafter d hd
      · obtain rfl : d = c := by simpa using hd
        exact hv.symm

/-- Versions stand in the order in which they occur first. -/
theorem exists_first_of_distinct {candidates : List (String × α)} {earlier later : List String}
    {v : String} (h : (distinct candidates).map Prod.fst = earlier ++ v :: later) :
    ∃ before t after, candidates = before ++ (v, t) :: after ∧ ∀ c ∈ before, c.1 ∈ earlier := by
  induction candidates using List.reverseRecOn generalizing later with
  | nil => simp [distinct] at h
  | append_singleton candidates c ih =>
    rw [distinct_concat, map_fst_addCandidate] at h
    -- What was found among the candidates before stays, with one more behind.
    have hkeep : ∀ later, (distinct candidates).map Prod.fst = earlier ++ v :: later →
        ∃ before t after, candidates ++ [c] = before ++ (v, t) :: after ∧
          ∀ c ∈ before, c.1 ∈ earlier := by
      intro later hlater
      obtain ⟨before, t, after, hsplit, hbefore⟩ := ih hlater
      exact ⟨before, t, after ++ [c], by simp [hsplit], hbefore⟩
    split at h
    · exact hkeep later h
    · rcases List.eq_nil_or_concat later with rfl | ⟨later, w, rfl⟩
      · obtain ⟨hearlier, hv⟩ := List.append_inj' h rfl
        obtain rfl : c.1 = v := by simpa using hv
        refine ⟨candidates, c.2, [], rfl, fun d hd => ?_⟩
        rw [← hearlier, mem_map_fst_distinct]
        exact List.mem_map_of_mem hd
      · rw [List.concat_eq_append, ← List.cons_append, ← List.append_assoc] at h
        exact hkeep later (List.append_inj' h rfl).1

/-- What is taken is the best so far or one of the candidates. -/
theorem eq_or_mem_of_foldl_better {best : Option (String × α)} {candidates : List (String × α)}
    {c : String × α} (h : candidates.foldl better best = some c) :
    best = some c ∨ c ∈ candidates := by
  induction candidates generalizing best with
  | nil => exact .inl h
  | cons d candidates ih =>
    rcases ih h with hbetter | hmem
    · cases best with
      | none => exact .inr (List.mem_cons.2 (.inl (Option.some.inj hbetter).symm))
      | some b =>
        rw [better] at hbetter
        split at hbetter
        · exact .inr (List.mem_cons.2 (.inl (Option.some.inj hbetter).symm))
        · exact .inl hbetter
    · exact .inr (List.mem_cons_of_mem _ hmem)

theorem mem_of_latest? {candidates : List (String × α)} {c : String × α}
    (h : latest? candidates = some c) : c ∈ candidates := by
  have hmem : c ∈ distinct candidates :=
    (eq_or_mem_of_foldl_better h).resolve_left fun hnone => by cases hnone
  obtain ⟨before, after, hsplit, -⟩ := exists_last_of_mem_distinct hmem
  exact hsplit ▸ List.mem_append_right before List.mem_cons_self

section Best

variable {K : Type} [LinearOrder K] {key : String → K}

/-- The best of some candidates is the first with the greatest key, when versions compare as keys
do. -/
theorem exists_foldl_better {candidates : List (String × α)}
    (hkey : ∀ a ∈ candidates, ∀ b ∈ candidates,
      Version.compareLoosely a.1 b.1 = .gt ↔ key b.1 < key a.1)
    (hne : candidates ≠ []) :
    ∃ before best after, candidates = before ++ best :: after ∧
      candidates.foldl better none = some best ∧
      (∀ c ∈ before, key c.1 < key best.1) ∧ ∀ c ∈ after, key c.1 ≤ key best.1 := by
  induction candidates using List.reverseRecOn with
  | nil => exact absurd rfl hne
  | append_singleton candidates c ih =>
    by_cases hnil : candidates = []
    · subst hnil
      exact ⟨[], c, [], rfl, rfl, by simp, by simp⟩
    · obtain ⟨before, best, after, hsplit, hfold, hbefore, hafter⟩ := ih
        (fun a ha b hb => hkey a (List.mem_append_left _ ha) b (List.mem_append_left _ hb)) hnil
      have hbest : best ∈ candidates ++ [c] := by simp [hsplit]
      rw [List.foldl_append, hfold]
      have hcmp := hkey c (by simp) best hbest
      by_cases hgt : Version.compareLoosely c.1 best.1 = .gt
      · have hlt : key best.1 < key c.1 := hcmp.1 hgt
        refine ⟨candidates, c, [], rfl, by simp [better, hgt], fun d hd => ?_, by simp⟩
        rw [hsplit] at hd
        rcases List.mem_append.1 hd with hd | hd
        · exact lt_trans (hbefore d hd) hlt
        · rcases List.mem_cons.1 hd with rfl | hd
          · exact hlt
          · exact lt_of_le_of_lt (hafter d hd) hlt
      · have hle : key c.1 ≤ key best.1 := not_lt.1 fun hlt => hgt (hcmp.2 hlt)
        refine ⟨before, best, after ++ [c], by simp [hsplit], by simp [better, hgt], hbefore,
          fun d hd => ?_⟩
        rcases List.mem_append.1 hd with hd | hd
        · exact hafter d hd
        · obtain rfl : d = c := by simpa using hd
          exact hle

/-- The latest of some candidates has the greatest key.  Its version comes before all others with
that key, and its tag is the last with that version. -/
theorem exists_latest? {candidates : List (String × α)}
    (hkey : ∀ a ∈ candidates, ∀ b ∈ candidates,
      Version.compareLoosely a.1 b.1 = .gt ↔ key b.1 < key a.1)
    (hne : candidates ≠ []) :
    ∃ v t, latest? candidates = some (v, t) ∧ (∀ c ∈ candidates, key c.1 ≤ key v) ∧
      (∃ before u after, candidates = before ++ (v, u) :: after ∧
        ∀ c ∈ before, key c.1 < key v) ∧
      ∃ before after, candidates = before ++ (v, t) :: after ∧ ∀ c ∈ after, c.1 ≠ v := by
  have hversions := mem_map_fst_distinct candidates
  have hcandidate : ∀ c ∈ distinct candidates, ∃ d ∈ candidates, d.1 = c.1 := fun c hc =>
    List.mem_map.1 ((hversions c.1).1 (List.mem_map_of_mem hc))
  have hkeyDistinct : ∀ a ∈ distinct candidates, ∀ b ∈ distinct candidates,
      Version.compareLoosely a.1 b.1 = .gt ↔ key b.1 < key a.1 := by
    intro a ha b hb
    obtain ⟨a', ha', haa⟩ := hcandidate a ha
    obtain ⟨b', hb', hbb⟩ := hcandidate b hb
    rw [← haa, ← hbb]
    exact hkey a' ha' b' hb'
  have hneDistinct : distinct candidates ≠ [] := by
    intro hnil
    obtain ⟨c, rest, rfl⟩ := List.exists_cons_of_ne_nil hne
    have hmem := (hversions c.1).2 (List.mem_map_of_mem List.mem_cons_self)
    simp [hnil] at hmem
  obtain ⟨earlier, ⟨v, t⟩, later, hsplit, hfold, hearlier, hlater⟩ :=
    exists_foldl_better hkeyDistinct hneDistinct
  refine ⟨v, t, hfold, fun c hc => ?_, ?_, exists_last_of_mem_distinct (by simp [hsplit])⟩
  · have hmem := (hversions c.1).2 (List.mem_map_of_mem hc)
    obtain ⟨d, hd, hdc⟩ := List.mem_map.1 hmem
    rw [← hdc]
    rw [hsplit] at hd
    rcases List.mem_append.1 hd with hd | hd
    · exact le_of_lt (hearlier d hd)
    · rcases List.mem_cons.1 hd with rfl | hd
      · exact le_rfl
      · exact hlater d hd
  · have hfirst : (distinct candidates).map Prod.fst
        = earlier.map Prod.fst ++ v :: later.map Prod.fst := by simp [hsplit]
    obtain ⟨before, u, after, hcandidates, hbefore⟩ := exists_first_of_distinct hfirst
    refine ⟨before, u, after, hcandidates, fun c hc => ?_⟩
    obtain ⟨d, hd, hdc⟩ := List.mem_map.1 (hbefore c hc)
    rw [← hdc]
    exact hearlier d hd

end Best

/-- There is a latest one of any candidates.  No version is greater than its version, no version
before the first place of that is as great, and its tag is the last with that version. -/
theorem selects_greatest_version (candidates : List (String × α)) :
    (latest? candidates = none ↔ candidates = []) ∧
    (candidates ≠ [] → ∃ v t, latest? candidates = some (v, t) ∧
      (∀ c ∈ candidates, Version.compareLoosely v c.1 ≠ .lt) ∧
      (∃ before u after, candidates = before ++ (v, u) :: after ∧
        ∀ c ∈ before, Version.compareLoosely c.1 v = .lt) ∧
      ∃ before after, candidates = before ++ (v, t) :: after ∧ ∀ c ∈ after, c.1 ≠ v) := by
  have hlatest : candidates ≠ [] → ∃ v t, latest? candidates = some (v, t) ∧
      (∀ c ∈ candidates, Version.compareLoosely v c.1 ≠ .lt) ∧
      (∃ before u after, candidates = before ++ (v, u) :: after ∧
        ∀ c ∈ before, Version.compareLoosely c.1 v = .lt) ∧
      ∃ before after, candidates = before ++ (v, t) :: after ∧ ∀ c ∈ after, c.1 ≠ v := by
    intro hne
    have hkey : ∀ x ∈ candidates, ∀ y ∈ candidates, Version.compareLoosely x.1 y.1 = .gt ↔
        Version.position y.1 < Version.position x.1 :=
      fun _ _ _ _ => Version.compareLoosely_eq_gt_iff_position
    obtain ⟨v, t, hfound, hgreatest, ⟨before, u, after, hsplit, hbefore⟩, hlast⟩ :=
      exists_latest? hkey hne
    refine ⟨v, t, hfound, fun c hc hlt => ?_, ⟨before, u, after, hsplit, fun c hc => ?_⟩, hlast⟩
    · exact not_lt.2 (hgreatest c hc) (Version.compareLoosely_eq_lt_iff_position.1 hlt)
    · exact Version.compareLoosely_eq_lt_iff_position.2 (hbefore c hc)
  refine ⟨⟨fun hnone => ?_, fun hnil => hnil ▸ rfl⟩, hlatest⟩
  by_contra hne
  obtain ⟨v, t, hfound, -⟩ := hlatest hne
  rw [hnone] at hfound
  cases hfound

/-- The greatest version in two spellings and with two tags. -/
theorem selects_greatest_version_sample :
    let candidates := [("1.9", "a"), ("1_10", "b"), ("1.10", "c"), ("1_10", "d"), ("1.2-rc", "e")]
    candidates ≠ [] ∧ latest? candidates = some ("1_10", "d") ∧
    (∀ c ∈ candidates, Version.compareLoosely "1_10" c.1 ≠ .lt) ∧
    Version.compareLoosely "1.10" "1_10" = .eq := by
  intro candidates
  have hne : candidates ≠ [] := List.cons_ne_nil _ _
  have hfound : latest? candidates = some ("1_10", "d") := by decide +kernel
  obtain ⟨v, t, hlatest, hgreatest, -⟩ := (selects_greatest_version candidates).2 hne
  obtain ⟨rfl, rfl⟩ : "1_10" = v ∧ "d" = t :=
    Prod.mk.inj (Option.some.inj (hfound.symm.trans hlatest))
  exact ⟨hne, hfound, hgreatest, by decide +kernel⟩

end ReleaseGap.Release
