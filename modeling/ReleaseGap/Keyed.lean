/-!
# Keyed lists

Values under texts, one for each text, in the order of the texts.  A keyed list is the list of its
pairs, so two lists that answer every look-up alike are the same list (`ext_find?`).  The order of
texts is that of their code points.
-/

namespace ReleaseGap.Keyed

variable {α : Type}

/-- The keys are strictly increasing. -/
def IsOrdered (entries : List (String × α)) : Prop :=
  (entries.map Prod.fst).Pairwise (· < ·)

instance (entries : List (String × α)) : Decidable (IsOrdered entries) :=
  inferInstanceAs (Decidable (List.Pairwise _ _))

/-- The value under a key. -/
def find? (key : String) : List (String × α) → Option α
  | [] => none
  | (k, v) :: rest => if k = key then some v else find? key rest

/-- Puts a value under a key, in the place of one that is there. -/
def insert (key : String) (value : α) : List (String × α) → List (String × α)
  | [] => [(key, value)]
  | (k, v) :: rest =>
    if key < k then (key, value) :: (k, v) :: rest
    else if k = key then (key, value) :: rest
    else (k, v) :: insert key value rest

/-- Takes a key out. -/
def erase (key : String) : List (String × α) → List (String × α)
  | [] => []
  | (k, v) :: rest => if k = key then rest else (k, v) :: erase key rest

/-- The keyed list of some pairs; of pairs with one key the last counts. -/
def ofPairs (pairs : List (String × α)) : List (String × α) :=
  pairs.foldl (fun entries p => insert p.1 p.2 entries) []

theorem isOrdered_nil : IsOrdered ([] : List (String × α)) := List.Pairwise.nil

theorem isOrdered_cons {k : String} {v : α} {rest : List (String × α)} :
    IsOrdered ((k, v) :: rest) ↔ (∀ e ∈ rest, k < e.1) ∧ IsOrdered rest := by
  simp only [IsOrdered, List.map_cons, List.pairwise_cons, List.mem_map]
  constructor
  · rintro ⟨h, hr⟩
    exact ⟨fun e he => h e.1 ⟨e, he, rfl⟩, hr⟩
  · rintro ⟨h, hr⟩
    exact ⟨fun _ ⟨e, he, hk⟩ => hk ▸ h e he, hr⟩

theorem mem_insert {key : String} {value : α} {entries : List (String × α)} {e : String × α}
    (h : e ∈ insert key value entries) : e = (key, value) ∨ e ∈ entries := by
  induction entries with
  | nil => exact .inl (by simpa [insert] using h)
  | cons p rest ih =>
    obtain ⟨k, v⟩ := p
    simp only [insert] at h
    split at h
    · rcases List.mem_cons.1 h with h | h
      · exact .inl h
      · exact .inr h
    · split at h
      · rcases List.mem_cons.1 h with h | h
        · exact .inl h
        · exact .inr (List.mem_cons_of_mem _ h)
      · rcases List.mem_cons.1 h with h | h
        · exact .inr (h ▸ List.mem_cons_self)
        · exact (ih h).imp_right (List.mem_cons_of_mem _)

theorem mem_of_mem_erase {key : String} {entries : List (String × α)} {e : String × α}
    (h : e ∈ erase key entries) : e ∈ entries := by
  induction entries with
  | nil => simp [erase] at h
  | cons p rest ih =>
    obtain ⟨k, v⟩ := p
    simp only [erase] at h
    split at h
    · exact List.mem_cons_of_mem _ h
    · rcases List.mem_cons.1 h with h | h
      · exact h ▸ List.mem_cons_self
      · exact List.mem_cons_of_mem _ (ih h)

theorem isOrdered_insert {key : String} {value : α} {entries : List (String × α)}
    (h : IsOrdered entries) : IsOrdered (insert key value entries) := by
  induction entries with
  | nil => simp [insert, IsOrdered]
  | cons p rest ih =>
    obtain ⟨k, v⟩ := p
    obtain ⟨hk, hr⟩ := isOrdered_cons.1 h
    simp only [insert]
    split
    · rename_i hlt
      refine isOrdered_cons.2 ⟨fun e he => ?_, h⟩
      rcases List.mem_cons.1 he with rfl | he
      · exact hlt
      · exact String.lt_trans hlt (hk e he)
    · split
      · rename_i heq
        subst heq
        exact isOrdered_cons.2 ⟨hk, hr⟩
      · rename_i hlt hne
        refine isOrdered_cons.2 ⟨fun e he => ?_, ih hr⟩
        rcases mem_insert he with rfl | he
        · exact Classical.not_not.1 fun hn => hne (String.le_antisymm (String.not_lt.1 hlt)
            (String.not_lt.1 hn))
        · exact hk e he

theorem isOrdered_erase {key : String} {entries : List (String × α)}
    (h : IsOrdered entries) : IsOrdered (erase key entries) := by
  induction entries with
  | nil => exact h
  | cons p rest ih =>
    obtain ⟨k, v⟩ := p
    obtain ⟨hk, hr⟩ := isOrdered_cons.1 h
    simp only [erase]
    split
    · exact hr
    · exact isOrdered_cons.2 ⟨fun e he => hk e (mem_of_mem_erase he), ih hr⟩

theorem isOrdered_ofPairs (pairs : List (String × α)) : IsOrdered (ofPairs pairs) := by
  suffices ∀ entries : List (String × α), IsOrdered entries →
      IsOrdered (pairs.foldl (fun entries p => insert p.1 p.2 entries) entries) from
    this [] isOrdered_nil
  induction pairs with
  | nil => exact fun _ h => h
  | cons p rest ih => exact fun _ h => ih _ (isOrdered_insert h)

theorem mem_of_mem_ofPairs {pairs : List (String × α)} {e : String × α} (h : e ∈ ofPairs pairs) :
    e ∈ pairs := by
  suffices ∀ entries : List (String × α),
      e ∈ pairs.foldl (fun entries p => insert p.1 p.2 entries) entries →
      e ∈ entries ∨ e ∈ pairs from (this [] h).resolve_left List.not_mem_nil
  clear h
  induction pairs with
  | nil => exact fun _ h => .inl h
  | cons p rest ih =>
    intro entries h
    rcases ih _ h with h | h
    · rcases mem_insert h with rfl | h
      · exact .inr List.mem_cons_self
      · exact .inl h
    · exact .inr (List.mem_cons_of_mem _ h)

theorem find?_insert (key key' : String) (value : α) (entries : List (String × α)) :
    find? key' (insert key value entries)
      = if key = key' then some value else find? key' entries := by
  induction entries with
  | nil => simp [insert, find?]
  | cons p rest ih =>
    obtain ⟨k, v⟩ := p
    simp only [insert]
    split
    · simp [find?]
    · split
      · rename_i heq
        subst heq
        simp only [find?]
        split <;> rfl
      · rename_i hne
        simp only [find?, ih]
        split
        · rename_i hk
          subst hk
          simp [Ne.symm hne]
        · rfl

/-- Above its head's key a keyed list has no smaller key. -/
theorem find?_eq_none_of_forall_lt {key : String} {entries : List (String × α)}
    (h : ∀ e ∈ entries, key < e.1) : find? key entries = none := by
  induction entries with
  | nil => rfl
  | cons p rest ih =>
    obtain ⟨k, v⟩ := p
    have hk : k ≠ key := fun he => String.lt_irrefl key (he ▸ h (k, v) List.mem_cons_self)
    simp only [find?, if_neg hk]
    exact ih fun e he => h e (List.mem_cons_of_mem _ he)

theorem find?_erase {entries : List (String × α)} (h : IsOrdered entries) (key key' : String) :
    find? key' (erase key entries) = if key = key' then none else find? key' entries := by
  induction entries with
  | nil => simp [erase, find?]
  | cons p rest ih =>
    obtain ⟨k, v⟩ := p
    obtain ⟨hk, hr⟩ := isOrdered_cons.1 h
    simp only [erase]
    split
    · rename_i heq
      subst heq
      by_cases hkey : k = key'
      · subst hkey
        simp [find?_eq_none_of_forall_lt hk]
      · simp [find?, hkey]
    · rename_i hne
      simp only [find?, ih hr]
      split
      · rename_i hk'
        subst hk'
        simp [Ne.symm hne]
      · rfl

/-- Of a keyed list only the one pair is lost. -/
theorem erase_eq_filter {entries : List (String × α)} (h : IsOrdered entries) (key : String) :
    erase key entries = entries.filter fun e => e.1 != key := by
  induction entries with
  | nil => rfl
  | cons p rest ih =>
    obtain ⟨k, v⟩ := p
    obtain ⟨hk, hr⟩ := isOrdered_cons.1 h
    by_cases heq : k = key
    · subst heq
      have hrest : rest.filter (fun e => e.1 != k) = rest := by
        refine List.filter_eq_self.2 fun e he => ?_
        have hne : e.1 ≠ k := fun hek => String.lt_irrefl k (hek ▸ hk e he)
        simpa using hne
      simp [erase, hrest]
    · simp [erase, heq, ih hr]

theorem find?_eq_some_of_mem {entries : List (String × α)} (h : IsOrdered entries) {e : String × α}
    (he : e ∈ entries) : find? e.1 entries = some e.2 := by
  induction entries with
  | nil => cases he
  | cons p rest ih =>
    obtain ⟨k, v⟩ := p
    obtain ⟨hk, hr⟩ := isOrdered_cons.1 h
    rcases List.mem_cons.1 he with rfl | he
    · simp [find?]
    · have hne : k ≠ e.1 := fun heq => String.lt_irrefl e.1 (heq ▸ hk e he)
      simp only [find?, if_neg hne]
      exact ih hr he

theorem mem_of_find?_eq_some {entries : List (String × α)} {key : String} {value : α}
    (h : find? key entries = some value) : (key, value) ∈ entries := by
  induction entries with
  | nil => cases h
  | cons p rest ih =>
    obtain ⟨k, v⟩ := p
    simp only [find?] at h
    split at h
    · rename_i heq
      cases h
      exact heq ▸ List.mem_cons_self
    · exact List.mem_cons_of_mem _ (ih h)

/-- A key above all others goes to the end. -/
theorem insert_eq_append {key : String} {value : α} {entries : List (String × α)}
    (h : ∀ e ∈ entries, e.1 < key) : insert key value entries = entries ++ [(key, value)] := by
  induction entries with
  | nil => rfl
  | cons p rest ih =>
    obtain ⟨k, v⟩ := p
    have hk : k < key := h (k, v) List.mem_cons_self
    have hne : k ≠ key := fun heq => String.lt_irrefl key (heq ▸ hk)
    have hrest := ih fun e he => h e (List.mem_cons_of_mem _ he)
    simp [insert, String.lt_asymm hk, hne, hrest]

theorem ofPairs_eq_self {entries : List (String × α)} (h : IsOrdered entries) :
    ofPairs entries = entries := by
  -- The pairs taken so far all stand below the ones to come.
  suffices ∀ taken : List (String × α), IsOrdered (taken ++ entries) →
      entries.foldl (fun taken p => insert p.1 p.2 taken) taken = taken ++ entries from this [] h
  clear h
  induction entries with
  | nil => exact fun taken _ => (List.append_nil taken).symm
  | cons p rest ih =>
    intro taken htaken
    have hbelow : ∀ e ∈ taken, e.1 < p.1 := by
      intro e he
      simp only [IsOrdered, List.map_append, List.map_cons] at htaken
      exact (List.pairwise_append.1 htaken).2.2 e.1 (List.mem_map_of_mem he) p.1
        List.mem_cons_self
    have happend : taken ++ p :: rest = taken ++ [(p.1, p.2)] ++ rest := by simp
    rw [List.foldl_cons, insert_eq_append hbelow, happend]
    exact ih _ (happend ▸ htaken)

/-- A keyed list is determined by its look-ups. -/
theorem ext_find? {a b : List (String × α)} (ha : IsOrdered a) (hb : IsOrdered b)
    (h : ∀ key, find? key a = find? key b) : a = b := by
  induction a generalizing b with
  | nil =>
    cases b with
    | nil => rfl
    | cons p rest =>
      have := h p.1
      simp [find?] at this
  | cons p rest ih =>
    obtain ⟨k, v⟩ := p
    cases b with
    | nil =>
      have := h k
      simp [find?] at this
    | cons p' rest' =>
      obtain ⟨k', v'⟩ := p'
      obtain ⟨hk, hr⟩ := isOrdered_cons.1 ha
      obtain ⟨hk', hr'⟩ := isOrdered_cons.1 hb
      have hkk : k = k' := by
        have hm : (k, v) ∈ (k', v') :: rest' := mem_of_find?_eq_some (by rw [← h k]; simp [find?])
        have hm' : (k', v') ∈ (k, v) :: rest := mem_of_find?_eq_some (by rw [h k']; simp [find?])
        rcases List.mem_cons.1 hm with hm | hm
        · exact congrArg Prod.fst hm
        · rcases List.mem_cons.1 hm' with hm' | hm'
          · exact (congrArg Prod.fst hm').symm
          · exact absurd (hk _ hm') (String.lt_asymm (hk' _ hm))
      subst hkk
      have hv : v = v' := by
        have := h k
        simpa [find?] using this
      subst hv
      rw [ih hr hr' fun key => ?_]
      have := h key
      simp only [find?] at this
      by_cases hkey : k = key
      · subst hkey
        rw [find?_eq_none_of_forall_lt hk, find?_eq_none_of_forall_lt hk']
      · simpa [hkey] using this

end ReleaseGap.Keyed
