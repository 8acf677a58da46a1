import Mathlib.Data.List.DropRight
import ReleaseGap.Proofs.XmlRpc.RoundTrip
import ReleaseGap.XmlRpc.Response

/-!
# Values that were decoded

A value that was read out of any document, however it was spelled there, is canonical: nothing is
left to trim in it and the members of its structs are in order.  Encoded again it is decoded to
itself.
-/
namespace ReleaseGap

section

variable {ε α β : Type}

theorem exists_of_map_eq_ok {x : Except ε α} {f : α → β} {b : β} (h : x.map f = .ok b) :
    ∃ a, x = .ok a ∧ f a = b := by
  cases x with
  | error e => cases h
  | ok a => exact ⟨a, rfl, Except.ok.inj h⟩

theorem exists_of_bind_eq_ok {x : Except ε α} {f : α → Except ε β} {b : β}
    (h : (x >>= f) = .ok b) : ∃ a, x = .ok a ∧ f a = .ok b := by
  cases x with
  | error e => cases h
  | ok a => exact ⟨a, rfl, h⟩

theorem eq_ok_of_mapError_eq_ok {ε' : Type} {x : Except ε α} {f : ε → ε'} {a : α}
    (h : x.mapError f = .ok a) : x = .ok a := by
  cases x with
  | error e => cases h
  | ok b => exact congrArg Except.ok (Except.ok.inj h)

end

namespace Text

/-- Trimming leaves nothing to trim. -/
theorem trim_trim (s : List Char) : trim (trim s) = trim s := by
  -- Cutting the end leaves the first character in its place, and that one is no blank.
  have hprefix : trim s <+: trimStart s := List.rdropWhile_prefix isBlank (trimStart s)
  have hstart : trimStart (trim s) = trim s := by
    cases htrim : trim s with
    | nil => rfl
    | cons c r =>
      obtain ⟨blanks, hblanks⟩ := hprefix
      have hhead := List.head?_dropWhile_not isBlank s
      have hdrop : s.dropWhile isBlank = c :: (r ++ blanks) := by
        rw [← List.cons_append, ← htrim, hblanks, trimStart]
      rw [hdrop] at hhead
      have hc : isBlank c = false := hhead
      rw [trimStart, List.dropWhile_cons_of_neg (by simp [hc])]
  calc trim (trim s) = trimEnd (trimStart (trim s)) := rfl
    _ = trimEnd (trim s) := by rw [hstart]
    _ = trim s := List.rdropWhile_idempotent isBlank (trimStart s)

end Text

namespace XmlRpc

open Xml (Element)

namespace Value

variable {p q : Value → Prop}

theorem allMembers_iff {members : List (String × Value)} :
    AllMembers p members ↔ ∀ e ∈ members, e.2.All p := by
  induction members with
  | nil => simp [AllMembers]
  | cons e rest ih => simp [AllMembers, ih]

theorem allMembers_insert {key : String} {v : Value} {members : List (String × Value)}
    (hv : v.All p) (h : AllMembers p members) : AllMembers p (Keyed.insert key v members) := by
  rw [allMembers_iff] at h ⊢
  intro e he
  rcases Keyed.mem_insert he with rfl | he
  · exact hv
  · exact h e he

theorem allMembers_ofPairs {pairs : List (String × Value)} (h : AllMembers p pairs) :
    AllMembers p (Keyed.ofPairs pairs) := by
  rw [allMembers_iff] at h ⊢
  exact fun e he => h e (Keyed.mem_of_mem_ofPairs he)

mutual

theorem All.and : ∀ {v : Value}, v.All p → v.All q → v.All fun v => p v ∧ q v
  | .string _, hp, hq | .int _, hp, hq | .boolean _, hp, hq | .double _, hp, hq
  | .dateTime _, hp, hq | .nil, hp, hq => ⟨hp, hq⟩
  | .struct _, hp, hq => ⟨⟨hp.1, hq.1⟩, AllMembers.and hp.2 hq.2⟩
  | .array _, hp, hq => ⟨⟨hp.1, hq.1⟩, AllOf.and hp.2 hq.2⟩

theorem AllMembers.and : ∀ {members : List (String × Value)}, AllMembers p members →
    AllMembers q members → AllMembers (fun v => p v ∧ q v) members
  | [], _, _ => trivial
  | (_, _) :: _, hp, hq => ⟨All.and hp.1 hq.1, AllMembers.and hp.2 hq.2⟩

theorem AllOf.and : ∀ {values : List Value}, AllOf p values → AllOf q values →
    AllOf (fun v => p v ∧ q v) values
  | [], _, _ => trivial
  | _ :: _, hp, hq => ⟨All.and hp.1 hq.1, AllOf.and hp.2 hq.2⟩

end

end Value

open Value (IsCanonical AllMembers AllOf)

theorem scalar?_canonical {type text : String} {v : Value} (h : scalar? type text = .ok v) :
    v.All IsCanonical := by
  simp only [scalar?] at h
  split at h
  · cases h
    exact ⟨trivial, trivial⟩
  · split at h
    · cases h
      exact ⟨trivial, trivial⟩
    · cases h
  · split at h
    · cases h
      exact ⟨trivial, trivial⟩
    · cases h
  · split at h
    · cases h
      exact ⟨trivial, trivial⟩
    · cases h
      exact ⟨trivial, trivial⟩
    · cases h
  · split at h
    · cases h
      exact ⟨trivial, trivial⟩
    · cases h
  · -- A date is the one text that was trimmed and is kept.
    cases h
    have htrimmed : Text.trim (Text.onChars Text.trim text).toList
        = (Text.onChars Text.trim text).toList := by
      rw [Text.toList_onChars, Text.trim_trim]
    exact ⟨trivial, htrimmed⟩
  · cases h
    exact ⟨trivial, trivial⟩
  · cases h

-- The recursion is the decoder's own, one theorem for each of its functions.
mutual

theorem decode_canonical : ∀ {e : Element} {v : Value}, decode e = .ok v → v.All IsCanonical
  | ⟨_, [], text⟩, v, h => by
    rw [decode] at h
    cases h
    exact ⟨trivial, trivial⟩
  | ⟨_, typed :: _, _⟩, v, h => by
    rw [decode] at h
    exact decodeTyped_canonical h

theorem decodeTyped_canonical : ∀ {e : Element} {v : Value}, decodeTyped e = .ok v →
    v.All IsCanonical
  | ⟨name, children, text⟩, v, h => by
    rw [decodeTyped] at h
    split at h
    · obtain ⟨members, hmembers, rfl⟩ := exists_of_map_eq_ok h
      have hkeyed := Keyed.isOrdered_ofPairs members
      exact ⟨⟨hkeyed, trivial⟩, Value.allMembers_ofPairs (decodeMembers_canonical hmembers)⟩
    · split at h
      · obtain ⟨values, hvalues, rfl⟩ := exists_of_map_eq_ok h
        exact ⟨⟨trivial, trivial⟩, decodeData_canonical hvalues⟩
      · exact scalar?_canonical h

theorem decodeMembers_canonical : ∀ {es : List Element} {members : List (String × Value)},
    decodeMembers es = .ok members → AllMembers IsCanonical members
  | [], _, h => by
    rw [decodeMembers] at h
    cases h
    trivial
  | ⟨name, children, _⟩ :: rest, members, h => by
    rw [decodeMembers] at h
    split at h
    · split at h
      · obtain ⟨v, hvalue, h⟩ := exists_of_bind_eq_ok h
        obtain ⟨others, hothers, h⟩ := exists_of_bind_eq_ok h
        cases h
        exact ⟨decodeMember_canonical hvalue, decodeMembers_canonical hothers⟩
      · cases h
    · exact decodeMembers_canonical h

theorem decodeMember_canonical : ∀ {es : List Element} {v : Value}, decodeMember es = .ok v →
    v.All IsCanonical
  | [], _, h => by
    rw [decodeMember] at h
    cases h
  | e :: rest, v, h => by
    rw [decodeMember] at h
    split at h
    · exact decode_canonical h
    · exact decodeMember_canonical h

theorem decodeData_canonical : ∀ {es : List Element} {values : List Value},
    decodeData es = .ok values → AllOf IsCanonical values
  | [], _, h => by
    rw [decodeData] at h
    cases h
    trivial
  | ⟨name, children, _⟩ :: rest, values, h => by
    rw [decodeData] at h
    split at h
    · exact decodeAll_canonical h
    · exact decodeData_canonical h

theorem decodeAll_canonical : ∀ {es : List Element} {values : List Value},
    decodeAll es = .ok values → AllOf IsCanonical values
  | [], _, h => by
    rw [decodeAll] at h
    cases h
    trivial
  | e :: rest, values, h => by
    rw [decodeAll] at h
    split at h
    · obtain ⟨v, hvalue, h⟩ := exists_of_bind_eq_ok h
      obtain ⟨others, hothers, h⟩ := exists_of_bind_eq_ok h
      cases h
      exact ⟨decode_canonical hvalue, decodeAll_canonical hothers⟩
    · exact decodeAll_canonical h

end

theorem result_canonical {root : Element} {v : Value} (h : Element.result root = .ok v) :
    v.All IsCanonical := by
  simp only [Element.result] at h
  split at h
  · cases h
  · split at h
    · cases h
    · split at h
      · exact decode_canonical (eq_ok_of_mapError_eq_ok h)
      · cases h

/-- What a server answers is canonical. -/
theorem readResponse_canonical {document : String} {v : Value}
    (h : readResponse document = .ok v) : v.All IsCanonical := by
  obtain ⟨root, -, hresult⟩ := exists_of_bind_eq_ok h
  exact result_canonical hresult

/-- A value that was decoded is decoded to itself again, whatever it was decoded from. -/
theorem readsAs_of_canonical {method : String} {parameters : List Value}
    (hcanonical : ∀ v ∈ parameters, v.All IsCanonical)
    (hreads : ∀ v ∈ parameters, v.All Value.ReadsBack) :
    ReadsAs (methodCall method parameters) method parameters :=
  readsAs_methodCall (fun v hv => (hcanonical v hv).and (hreads v hv)) method

end XmlRpc

end ReleaseGap
