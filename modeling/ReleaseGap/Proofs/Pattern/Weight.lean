import ReleaseGap.Pattern.Weight
import ReleaseGap.Proofs.Pattern.Literal

/-!
# Bounds of weights

A range of characters has few rows of octets, so the weight of a set is at most in proportion to its
ranges, and the weight of a pattern to its parts.
-/
namespace ReleaseGap.Pattern

namespace OctetRow

variable {mark others a b : Nat}

theorem length_behind (octet : Nat) (rows : List OctetRow) :
    (behind octet rows).length = rows.length :=
  List.length_map _

theorem length_whole_le (mark others first final : Nat) :
    (whole mark others first final).length ≤ 1 := by
  rw [whole]
  split
  · exact Nat.le_refl 1
  · exact Nat.zero_le 1

/-- Each octet more has the rows of its first and of its last value, and one for all others. -/
theorem length_between_lt (mark others a b : Nat) :
    (between mark others a b).length < Nat.pow 2 (others + 1) := by
  induction others generalizing mark a b with
  | zero => exact Nat.lt_succ_self 1
  | succ others ih =>
    have hpow : Nat.pow 2 (others + 1 + 1) = Nat.pow 2 (others + 1) * 2 := rfl
    rw [between]
    generalize Nat.pow 64 (others + 1) = block
    split
    · rw [length_behind]
      exact Nat.lt_of_lt_of_le (ih _ _ _) (hpow ▸ Nat.le_mul_of_pos_right _ Nat.two_pos)
    · have hfirst := ih 0x80 (a % block) (block - 1)
      have hfinal := ih 0x80 0 (b % block)
      have hwhole := length_whole_le mark (others + 1) ((a + block - 1) / block) ((b + 1) / block)
      rw [hpow, List.length_append, List.length_append]
      split_ifs <;> simp only [length_behind, List.length_nil] <;> omega

theorem length_of_mem_whole {first final : Nat} {row : OctetRow}
    (h : row ∈ whole mark others first final) : row.length = others + 1 := by
  rw [whole] at h
  split at h
  · obtain rfl := List.mem_singleton.1 h
    rw [List.length_cons, List.length_replicate]
  · cases h

theorem length_of_mem_between {row : OctetRow} (h : row ∈ between mark others a b) :
    row.length = others + 1 := by
  induction others generalizing mark a b row with
  | zero =>
    obtain rfl := List.mem_singleton.1 h
    rfl
  | succ others ih =>
    have hbehind {octet mark a b : Nat} (h : row ∈ behind octet (between mark others a b)) :
        row.length = others + 1 + 1 := by
      obtain ⟨tail, htail, rfl⟩ := List.mem_map.1 h
      rw [List.length_cons, ih htail]
    rw [between] at h
    split at h
    · exact hbehind h
    · rcases List.mem_append.1 h with h | h
      · rcases List.mem_append.1 h with h | h
        · split at h
          · cases h
          · exact hbehind h
        · exact length_of_mem_whole h
      · split at h
        · cases h
        · exact hbehind h

/-- A range has rows of every length. -/
theorem length_ofRange_le (a b : Nat) : (ofRange a b).length ≤ 33 := by
  have hlength : ∀ first final mark others,
      (if max a first ≤ min b final then between mark others (max a first) (min b final)
        else []).length < Nat.pow 2 (others + 1) := by
    intro first final mark others
    split
    · exact length_between_lt _ _ _ _
    · exact Nat.pow_pos Nat.two_pos
  have hone := hlength 0 0x7F 0 0
  have htwo := hlength 0x80 0x7FF 0xC0 1
  have hthree := hlength 0x800 0xD7FF 0xE0 2
  have hthree' := hlength 0xE000 0xFFFF 0xE0 2
  have hfour := hlength 0x10000 CharSet.last 0xF0 3
  simp only [ofRange, lengths, List.flatMap_cons, List.flatMap_nil, List.append_nil,
    List.length_append]
  simp only [Nat.pow, Nat.mul_eq] at hone htwo hthree hthree' hfour
  omega

theorem length_ofSet_le (s : CharSet) : (ofSet s).length ≤ 33 * s.length := by
  induction s with
  | nil => exact Nat.le_refl 0
  | cons range s ih =>
    have hrange := length_ofRange_le range.1 range.2
    have hset : ofSet (range :: s) = ofRange range.1 range.2 ++ ofSet s := rfl
    rw [hset, List.length_append, List.length_cons]
    omega

theorem length_of_mem_ofSet {s : CharSet} {row : OctetRow} (h : row ∈ ofSet s) :
    row.length ≤ 4 := by
  obtain ⟨⟨a, b⟩, -, h⟩ := List.mem_flatMap.1 h
  obtain ⟨⟨first, final, mark, others⟩, hlength, h⟩ := List.mem_flatMap.1 h
  have hothers : ∀ l ∈ lengths, l.2.2.2 + 1 ≤ 4 := by decide
  dsimp only at h
  split at h
  · exact length_of_mem_between h ▸ hothers _ hlength
  · cases h

theorem steps_le {rows : List OctetRow} (h : ∀ row ∈ rows, row.length ≤ 4) (before : OctetRow) :
    steps before rows ≤ 4 * rows.length := by
  induction rows generalizing before with
  | nil => exact Nat.le_refl 0
  | cons row rows ih =>
    obtain ⟨hrow, hrows⟩ := List.forall_mem_cons.1 h
    have hown : ownOctets before row ≤ 4 := Nat.le_trans (Nat.sub_le _ _) hrow
    rw [steps, List.length_cons, Nat.mul_succ, Nat.add_comm]
    exact Nat.add_le_add (ih hrows row) hown

end OctetRow

namespace Regex

theorem classWeight_le (s : CharSet) : classWeight s ≤ 64 + 4356 * s.length := by
  rw [classWeight]
  split
  · omega
  · have hrows := OctetRow.length_ofSet_le s
    have hlength : ∀ row ∈ OctetRow.ofSet s, row.length ≤ 4 := fun _ =>
      OctetRow.length_of_mem_ofSet
    have hsteps := OctetRow.steps_le hlength []
    dsimp only
    omega

theorem octetCount_le (n : Nat) : octetCount n ≤ 4 := by
  rw [octetCount]
  split_ifs <;> decide

theorem setWeight_single_le (c : Char) : setWeight (.single c) ≤ 128 := by
  rw [CharSet.single, setWeight, if_pos rfl]
  exact Nat.mul_le_mul_left 32 (octetCount_le _)

theorem setWeight_le (s : CharSet) : setWeight s ≤ 128 + 4356 * s.length := by
  have hclass := classWeight_le s
  unfold setWeight
  split
  · rename_i a b
    have hcount := octetCount_le a
    split <;> omega
  · omega

theorem weight_cats (rs : List Regex) :
    (cats rs).weight = rs.foldr (fun r weight => r.weight + weight) 0 := by
  fun_induction cats rs with
  | case1 => rfl
  | case2 r => rfl
  | case3 r rest hrest ih => rw [weight, ih, List.foldr_cons]

theorem weight_cats_le {rs : List Regex} {bound : Nat} (h : ∀ r ∈ rs, r.weight ≤ bound) :
    (cats rs).weight ≤ rs.length * bound := by
  rw [weight_cats]
  induction rs with
  | nil => exact Nat.zero_le _
  | cons r rs ih =>
    obtain ⟨hr, hrs⟩ := List.forall_mem_cons.1 h
    rw [List.foldr_cons, List.length_cons, Nat.succ_mul, Nat.add_comm]
    exact Nat.add_le_add (ih hrs) hr

end Regex

end ReleaseGap.Pattern
