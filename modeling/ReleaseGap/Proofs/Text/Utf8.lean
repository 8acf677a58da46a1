import Mathlib.Data.List.Infix
import Mathlib.Tactic.Common
import ReleaseGap.Text.Utf8

/-!
# UTF-8 read and written

The octets of a text are read as that text, and no other octets are: what the strict reader accepts
is exactly what some text is written as.
-/
namespace ReleaseGap.Text.Utf8

/-- The octets of some characters. -/
def encodeChars (s : List Char) : List UInt8 := s.flatMap String.utf8EncodeChar

theorem toList_eq (a : ByteArray) : a.toList = a.data.toList := by
  have hloop : ∀ (i : Nat) (r : List UInt8),
      ByteArray.toList.loop a i r = r.reverse ++ a.data.toList.drop i := by
    intro i r
    fun_induction ByteArray.toList.loop a i r with
    | case1 i r h ih =>
      have hi : i < a.data.toList.length := by simpa using h
      rw [ih, List.drop_eq_getElem_cons hi]
      simp [ByteArray.get!, h]
    | case2 i r h =>
      rw [List.drop_eq_nil_of_le (by simpa using Nat.le_of_not_lt h)]
      simp
  simp [ByteArray.toList, hloop]

theorem encode_eq (s : String) : encode s = encodeChars s.toList := by
  rw [encode, encodeChars, toList_eq]
  change s.toByteArray.data.toList = _
  rw [← String.utf8Encode_toList, List.utf8Encode, List.toList_data_toByteArray]

/-- A first octet that stands alone. -/
theorem lead_one {n : Nat} (h : n < 0x80) : lead n = .char (Char.ofNat n) := by
  simp only [lead]
  rw [if_pos h]

/-- A first octet that announces one more. -/
theorem lead_two {n : Nat} (hlow : 2 ≤ n) (hhigh : n < 32) :
    lead (n + 0xC0) = .more ⟨1, 0x80, 0xBF, n⟩ := by
  simp only [lead]
  rw [if_neg (by omega), if_neg (by omega), if_pos (by omega), Nat.add_sub_cancel]

/-- A first octet that announces two more leaves out what fewer octets can say, and what is no
character. -/
theorem lead_three {n : Nat} (hn : n < 16) : ∃ low high,
    lead (n + 0xE0) = .more ⟨2, low, high, n⟩ ∧ 0x80 ≤ low ∧ high ≤ 0xBF ∧
    ∀ m < 64, (low ≤ m + 0x80 ∧ m + 0x80 ≤ high ↔
      0x20 ≤ n * 64 + m ∧ ¬(0x360 ≤ n * 64 + m ∧ n * 64 + m < 0x380)) := by
  simp only [lead]
  rw [if_neg (by omega), if_neg (by omega), if_neg (by omega)]
  by_cases hfirst : n = 0
  · subst hfirst
    exact ⟨_, _, rfl, by omega, by omega, by omega⟩
  · rw [if_neg (by omega)]
    by_cases hmiddle : n = 13
    · subst hmiddle
      exact ⟨_, _, rfl, by omega, by omega, by omega⟩
    · rw [if_neg (by omega), if_pos (by omega), Nat.add_sub_cancel]
      exact ⟨_, _, rfl, by omega, by omega, by omega⟩

/-- A first octet that announces three more leaves out what fewer octets can say, and what lies
beyond the last character. -/
theorem lead_four {n : Nat} (hn : n < 5) : ∃ low high,
    lead (n + 0xF0) = .more ⟨3, low, high, n⟩ ∧ 0x80 ≤ low ∧ high ≤ 0xBF ∧
    ∀ m < 64, (low ≤ m + 0x80 ∧ m + 0x80 ≤ high ↔ 0x10 ≤ n * 64 + m ∧ n * 64 + m < 0x110) := by
  simp only [lead]
  rw [if_neg (by omega), if_neg (by omega), if_neg (by omega), if_neg (by omega),
    if_neg (by omega), if_neg (by omega)]
  by_cases hfirst : n = 0
  · subst hfirst
    exact ⟨_, _, rfl, by omega, by omega, by omega⟩
  · rw [if_neg (by omega)]
    by_cases hlast : n = 4
    · subst hlast
      exact ⟨_, _, rfl, by omega, by omega, by omega⟩
    · rw [if_pos (by omega), Nat.add_sub_cancel]
      exact ⟨_, _, rfl, by omega, by omega, by omega⟩

/-- Every first octet is of one of these kinds. -/
theorem lead_cases (b : Nat) :
    b < 0x80 ∨ (∃ n, 2 ≤ n ∧ n < 32 ∧ b = n + 0xC0) ∨ (∃ n < 16, b = n + 0xE0) ∨
    (∃ n < 5, b = n + 0xF0) ∨ lead b = .bad := by
  by_cases hone : b < 0x80
  · exact .inl hone
  · by_cases htwo : 0xC2 ≤ b ∧ b < 0xE0
    · exact .inr (.inl ⟨b - 0xC0, by omega, by omega, by omega⟩)
    · by_cases hthree : 0xE0 ≤ b ∧ b < 0xF0
      · exact .inr (.inr (.inl ⟨b - 0xE0, by omega, by omega⟩))
      · by_cases hfour : 0xF0 ≤ b ∧ b < 0xF5
        · exact .inr (.inr (.inr (.inl ⟨b - 0xF0, by omega, by omega⟩)))
        · refine .inr (.inr (.inr (.inr ?_)))
          simp only [lead]
          rw [if_neg hone]
          split
          · rfl
          · rw [if_neg (by omega), if_neg (by omega), if_neg (by omega), if_neg (by omega),
              if_neg (by omega), if_neg (by omega), if_neg (by omega)]

/-- The octets of the character with a number: the number in sixes of bits behind a mark of how many
octets there are, in as few octets as it fits in. -/
inductive Spells : List UInt8 → Nat → Prop
  | one {n : Nat} (h : n < 0x80) : Spells [.ofNat n] n
  | two {n m : Nat} (hlow : 2 ≤ n) (hhigh : n < 32) (hm : m < 64) :
      Spells [.ofNat (n + 0xC0), .ofNat (m + 0x80)] (n * 64 + m)
  | three {n m l : Nat} (hn : n < 16) (hm : m < 64) (hl : l < 64)
      (h : 0x20 ≤ n * 64 + m ∧ ¬(0x360 ≤ n * 64 + m ∧ n * 64 + m < 0x380)) :
      Spells [.ofNat (n + 0xE0), .ofNat (m + 0x80), .ofNat (l + 0x80)] ((n * 64 + m) * 64 + l)
  | four {n m l k : Nat} (hn : n < 5) (hm : m < 64) (hl : l < 64) (hk : k < 64)
      (h : 0x10 ≤ n * 64 + m ∧ n * 64 + m < 0x110) :
      Spells [.ofNat (n + 0xF0), .ofNat (m + 0x80), .ofNat (l + 0x80), .ofNat (k + 0x80)]
        (((n * 64 + m) * 64 + l) * 64 + k)

theorem toNat_ofNat {n : Nat} (h : n < 256) : (UInt8.ofNat n).toNat = n := by
  rw [UInt8.toNat_ofNat', Nat.mod_eq_of_lt h]

theorem pieces_more {n : Nat} (hn : n < 256) {p : Pending} (h : lead n = .more p)
    (r : List UInt8) : pieces none (.ofNat n :: r) = pieces (some p) r := by
  rw [pieces, toNat_ofNat hn, h]

theorem pieces_last {p : Pending} {m : Nat} (hm : m < 64) (hneed : p.need = 1)
    (hlow : p.low ≤ m + 0x80) (hhigh : m + 0x80 ≤ p.high) (r : List UInt8) :
    pieces (some p) (.ofNat (m + 0x80) :: r)
      = some (Char.ofNat (p.value * 64 + m)) :: pieces none r := by
  rw [pieces, toNat_ofNat (by omega)]
  simp [hlow, hhigh, hneed]

theorem pieces_next {p : Pending} {m : Nat} (hm : m < 64) (hneed : p.need ≠ 1)
    (hlow : p.low ≤ m + 0x80) (hhigh : m + 0x80 ≤ p.high) (r : List UInt8) :
    pieces (some p) (.ofNat (m + 0x80) :: r)
      = pieces (some ⟨p.need - 1, 0x80, 0xBF, p.value * 64 + m⟩) r := by
  rw [pieces, toNat_ofNat (by omega)]
  simp [hlow, hhigh, hneed]

/-- What spells a character is read as it. -/
theorem Spells.pieces_append {octets : List UInt8} {v : Nat} (h : Spells octets v)
    (r : List UInt8) : pieces none (octets ++ r) = some (Char.ofNat v) :: pieces none r := by
  cases h with
  | one h =>
    rw [List.singleton_append, pieces, toNat_ofNat (by omega), lead_one h]
  | @two n m hlow hhigh hm =>
    simp only [List.cons_append, List.nil_append]
    rw [pieces_more (by omega) (lead_two hlow hhigh),
      pieces_last hm rfl (by simp) (by simp; omega)]
  | @three n m l hn hm hl h =>
    obtain ⟨low, high, hlead, -, -, hbounds⟩ := lead_three hn
    obtain ⟨hlow, hhigh⟩ := (hbounds m hm).2 h
    simp only [List.cons_append, List.nil_append]
    rw [pieces_more (by omega) hlead, pieces_next hm (by simp) hlow hhigh,
      pieces_last hl rfl (by simp) (by simp; omega)]
  | @four n m l k hn hm hl hk h =>
    obtain ⟨low, high, hlead, -, -, hbounds⟩ := lead_four hn
    obtain ⟨hlow, hhigh⟩ := (hbounds m hm).2 h
    simp only [List.cons_append, List.nil_append]
    rw [pieces_more (by omega) hlead, pieces_next hm (by simp) hlow hhigh,
      pieces_next hl (by simp) (by simp) (by simp; omega),
      pieces_last hk rfl (by simp) (by simp; omega)]

theorem Spells.encodeChar_eq {octets : List UInt8} {v : Nat} (h : Spells octets v) :
    String.utf8EncodeChar (Char.ofNat v) = octets := by
  have hvalid : v.isValidChar := by
    cases h <;> simp only [Nat.isValidChar] <;> omega
  have hval : (Char.ofNat v).val.toNat = v := by
    rw [Char.ofNat, dif_pos hvalid]
    rfl
  simp only [String.utf8EncodeChar, hval]
  cases h with
  | one h => rw [if_pos (by omega)]
  | @two n m hlow hhigh hm =>
    rw [if_neg (by omega), if_pos (by omega)]
    have hn : (n * 64 + m) / 64 % 0x20 = n := by omega
    have hm : (n * 64 + m) % 0x40 = m := by omega
    rw [hn, hm]
  | @three n m l hn hm hl h =>
    rw [if_neg (by omega), if_neg (by omega), if_pos (by omega)]
    have hn : ((n * 64 + m) * 64 + l) / 4096 % 0x10 = n := by omega
    have hm : ((n * 64 + m) * 64 + l) / 64 % 0x40 = m := by omega
    have hl : ((n * 64 + m) * 64 + l) % 0x40 = l := by omega
    rw [hn, hm, hl]
  | @four n m l k hn hm hl hk h =>
    rw [if_neg (by omega), if_neg (by omega), if_neg (by omega)]
    have hn : (((n * 64 + m) * 64 + l) * 64 + k) / 262144 % 0x08 = n := by omega
    have hm : (((n * 64 + m) * 64 + l) * 64 + k) / 4096 % 0x40 = m := by omega
    have hl : (((n * 64 + m) * 64 + l) * 64 + k) / 64 % 0x40 = l := by omega
    have hk : (((n * 64 + m) * 64 + l) * 64 + k) % 0x40 = k := by omega
    rw [hn, hm, hl, hk]

/-- Every character is spelled somehow. -/
theorem exists_spells (c : Char) : ∃ octets, Spells octets c.toNat := by
  have hvalid : c.toNat < 0xD800 ∨ 0xDFFF < c.toNat ∧ c.toNat < 0x110000 := c.valid
  generalize c.toNat = v at hvalid
  by_cases hone : v < 0x80
  · exact ⟨_, .one hone⟩
  · by_cases htwo : v < 0x800
    · have hv : v / 64 * 64 + v % 64 = v := by omega
      rw [← hv]
      exact ⟨_, .two (by omega) (by omega) (by omega)⟩
    · by_cases hthree : v < 0x10000
      · have hv : (v / 4096 * 64 + v / 64 % 64) * 64 + v % 64 = v := by omega
        rw [← hv]
        exact ⟨_, .three (by omega) (by omega) (by omega) (by omega)⟩
      · have hv : ((v / 262144 * 64 + v / 4096 % 64) * 64 + v / 64 % 64) * 64 + v % 64 = v := by
          omega
        rw [← hv]
        exact ⟨_, .four (by omega) (by omega) (by omega) (by omega) (by omega)⟩

theorem spells_encodeChar (c : Char) : Spells (String.utf8EncodeChar c) c.toNat := by
  obtain ⟨octets, h⟩ := exists_spells c
  have heq := h.encodeChar_eq
  rw [Char.ofNat_toNat] at heq
  rwa [heq]

/-- An octet of the first half spells the character of its number, and is part of no other. -/
theorem Spells.eq_toNat {octets : List UInt8} {v : Nat} (h : Spells octets v) {b : UInt8}
    (hmem : b ∈ octets) (hb : b.toNat < 0x80) : v = b.toNat := by
  have hmark : ∀ n, 0x80 ≤ n → n < 256 → b ≠ .ofNat n := by
    rintro n hlow hhigh rfl
    rw [toNat_ofNat hhigh] at hb
    omega
  cases h with
  | one h => rw [List.mem_singleton.1 hmem, toNat_ofNat (by omega)]
  | two =>
    simp only [List.mem_cons, List.not_mem_nil, or_false] at hmem
    rcases hmem with hmem | hmem <;> exact absurd hmem (hmark _ (by omega) (by omega))
  | three =>
    simp only [List.mem_cons, List.not_mem_nil, or_false] at hmem
    rcases hmem with hmem | hmem | hmem <;> exact absurd hmem (hmark _ (by omega) (by omega))
  | four =>
    simp only [List.mem_cons, List.not_mem_nil, or_false] at hmem
    rcases hmem with hmem | hmem | hmem | hmem <;>
      exact absurd hmem (hmark _ (by omega) (by omega))

theorem lf_mem_encodeChar_iff {c : Char} : 10 ∈ String.utf8EncodeChar c ↔ c = '\n' := by
  constructor
  · intro hmem
    exact Char.ext (UInt32.toNat_inj.1 ((spells_encodeChar c).eq_toNat hmem (by decide)))
  · rintro rfl
    decide

theorem pieces_encodeChars_append (s : List Char) (r : List UInt8) :
    pieces none (encodeChars s ++ r) = s.map some ++ pieces none r := by
  induction s with
  | nil => rfl
  | cons c s ih =>
    rw [encodeChars, List.flatMap_cons, List.append_assoc, (spells_encodeChar c).pieces_append,
      Char.ofNat_toNat]
    exact congrArg _ ih

theorem pieces_encodeChars (s : List Char) : pieces none (encodeChars s) = s.map some := by
  simpa [pieces] using pieces_encodeChars_append s []

/-- Octets begin with those of a text where their characters begin with the text. -/
theorem encodeChars_isPrefix_iff {lead s : List Char} :
    encodeChars lead <+: encodeChars s ↔ lead <+: s := by
  constructor
  · rintro ⟨r, hr⟩
    have h : lead.map some <+: s.map some := by
      refine ⟨pieces none r, ?_⟩
      rw [← pieces_encodeChars_append, hr, pieces_encodeChars]
    exact (List.prefix_map_iff_of_injective fun _ _ => Option.some.inj).1 h
  · intro h
    exact h.flatMap _

theorem exists_tail {p : Pending} (hneed : 0x80 ≤ p.low ∧ p.high ≤ 0xBF) {octets : List UInt8}
    {s : List Char} (h : pieces (some p) octets = s.map some) :
    ∃ m < 64, ∃ r, octets = .ofNat (m + 0x80) :: r ∧ p.low ≤ m + 0x80 ∧ m + 0x80 ≤ p.high := by
  have hnone : none ∉ pieces (some p) octets := by simp [h]
  cases octets with
  | nil => exact absurd (by simp [pieces]) hnone
  | cons b r =>
    by_cases hb : p.low ≤ b.toNat ∧ b.toNat ≤ p.high
    · refine ⟨b.toNat - 0x80, by omega, r, ?_, by omega, by omega⟩
      rw [Nat.sub_add_cancel (by omega), UInt8.ofNat_toNat]
    · refine absurd ?_ hnone
      rw [pieces, if_neg (by simpa using hb)]
      split <;> simp

/-- Octets without a faulty piece begin with what spells a character. -/
theorem exists_spells_of_pieces {octets : List UInt8} {s : List Char} (hne : octets ≠ [])
    (h : pieces none octets = s.map some) :
    ∃ first v rest, octets = first ++ rest ∧ Spells first v := by
  obtain ⟨b, r, rfl⟩ := List.exists_cons_of_ne_nil hne
  have hb : b = .ofNat b.toNat := UInt8.ofNat_toNat.symm
  rcases lead_cases b.toNat with hone | ⟨n, hlow, hhigh, hn⟩ | ⟨n, hn, hbn⟩ | ⟨n, hn, hbn⟩ | hbad
  · exact ⟨[.ofNat b.toNat], b.toNat, r, by rw [← hb]; rfl, .one hone⟩
  · rw [hn] at hb
    subst hb
    rw [pieces_more (by omega) (lead_two hlow hhigh)] at h
    obtain ⟨m, hm, r, rfl, -, -⟩ := exists_tail ⟨by simp, by simp⟩ h
    exact ⟨_, _, r, rfl, .two hlow hhigh hm⟩
  · obtain ⟨low, high, hlead, hlow, hhigh, hbounds⟩ := lead_three hn
    rw [hbn] at hb
    subst hb
    rw [pieces_more (by omega) hlead] at h
    obtain ⟨m, hm, r, rfl, hml, hmh⟩ := exists_tail ⟨hlow, hhigh⟩ h
    rw [pieces_next hm (by simp) hml hmh] at h
    obtain ⟨l, hl, r, rfl, -, -⟩ := exists_tail ⟨by simp, by simp⟩ h
    exact ⟨_, _, r, rfl, .three hn hm hl ((hbounds m hm).1 ⟨hml, hmh⟩)⟩
  · obtain ⟨low, high, hlead, hlow, hhigh, hbounds⟩ := lead_four hn
    rw [hbn] at hb
    subst hb
    rw [pieces_more (by omega) hlead] at h
    obtain ⟨m, hm, r, rfl, hml, hmh⟩ := exists_tail ⟨hlow, hhigh⟩ h
    rw [pieces_next hm (by simp) hml hmh] at h
    obtain ⟨l, hl, r, rfl, hll, hlh⟩ := exists_tail ⟨by simp, by simp⟩ h
    rw [pieces_next hl (by simp) hll hlh] at h
    obtain ⟨k, hk, r, rfl, -, -⟩ := exists_tail ⟨by simp, by simp⟩ h
    exact ⟨_, _, r, rfl, .four hn hm hl hk ((hbounds m hm).1 ⟨hml, hmh⟩)⟩
  · have hnone : none ∈ pieces none (b :: r) := by simp [pieces, hbad]
    simp [h] at hnone

/-- Octets without a faulty piece are those of their characters. -/
theorem eq_encodeChars_of_pieces {octets : List UInt8} {s : List Char}
    (h : pieces none octets = s.map some) : octets = encodeChars s := by
  induction s generalizing octets with
  | nil =>
    cases octets with
    | nil => rfl
    | cons b r =>
      obtain ⟨first, v, rest, heq, hspells⟩ :=
        exists_spells_of_pieces (List.cons_ne_nil b r) h
      rw [heq, hspells.pieces_append] at h
      cases h
  | cons c s ih =>
    have hne : octets ≠ [] := by
      rintro rfl
      cases h
    obtain ⟨first, v, rest, rfl, hspells⟩ := exists_spells_of_pieces hne h
    rw [hspells.pieces_append, List.map_cons] at h
    obtain ⟨hc, hrest⟩ := List.cons.inj h
    rw [ih hrest, ← hspells.encodeChar_eq, Option.some.inj hc]
    rfl

theorem mapM_id_eq_some_iff {ps : List (Option Char)} {cs : List Char} :
    ps.mapM id = some cs ↔ ps = cs.map some := by
  induction ps generalizing cs with
  | nil => cases cs <;> simp
  | cons p ps ih =>
    cases p with
    | none => cases cs <;> simp
    | some c =>
      simp only [List.mapM_cons, id_eq, Option.bind_eq_bind, Option.bind_some, Option.pure_def,
        Option.bind_eq_some_iff, ih, Option.some.injEq]
      cases cs with
      | nil => simp
      | cons d cs => simp [and_comm]

/-- The strict reader accepts what some text is written as, and reads that text. -/
theorem decode?_eq_some_iff {octets : List UInt8} {s : String} :
    decode? octets = some s ↔ octets = encode s := by
  rw [decode?, Option.map_eq_some_iff, encode_eq]
  constructor
  · rintro ⟨cs, hcs, rfl⟩
    rw [String.toList_ofList]
    exact eq_encodeChars_of_pieces (mapM_id_eq_some_iff.1 hcs)
  · rintro rfl
    exact ⟨s.toList, mapM_id_eq_some_iff.2 (pieces_encodeChars s.toList), String.ofList_toList⟩

/-- Whether octets are UTF-8. -/
def IsText (octets : List UInt8) : Prop := ∃ s : String, encode s = octets

theorem decode?_eq_none_iff {octets : List UInt8} : decode? octets = none ↔ ¬ IsText octets := by
  rw [Option.eq_none_iff_forall_ne_some, IsText, not_exists]
  exact forall_congr' fun s => not_congr (decode?_eq_some_iff.trans eq_comm)

theorem isText_encodeChars (s : List Char) : IsText (encodeChars s) :=
  ⟨String.ofList s, by rw [encode_eq, String.toList_ofList]⟩

theorem exists_encodeChars {octets : List UInt8} (h : IsText octets) :
    ∃ s, octets = encodeChars s := by
  obtain ⟨text, rfl⟩ := h
  exact ⟨text.toList, encode_eq text⟩

theorem isText_flatten {ls : List (List UInt8)} (h : ∀ l ∈ ls, IsText l) :
    IsText ls.flatten := by
  induction ls with
  | nil => exact isText_encodeChars []
  | cons l ls ih =>
    rw [List.forall_mem_cons] at h
    obtain ⟨s, rfl⟩ := exists_encodeChars h.1
    obtain ⟨s', hs'⟩ := exists_encodeChars (ih h.2)
    rw [List.flatten_cons, hs', encodeChars, encodeChars, ← List.flatMap_append]
    exact isText_encodeChars (s ++ s')

end ReleaseGap.Text.Utf8
