import ReleaseGap.Proofs.Xml.Written
import ReleaseGap.XmlRpc.Decode

/-!
# Values as elements

The element that a value stands for, and the tree of a call.  What is written for a value is read as
its element and for a call as its tree, whatever the names and texts in them are made of.
-/
namespace ReleaseGap.XmlRpc

open Xml (Element Spells IsPlainName)

namespace Value

mutual

/-- The element inside of a value's element, which says the type of the value. -/
def typeElement : Value → Element
  | .string s => ⟨"string", [], s⟩
  | .int n => ⟨"int", [], Decimal.intText n.toInt⟩
  | .boolean b => ⟨"boolean", [], if b then "1" else "0"⟩
  | .double x => ⟨"double", [], x.text⟩
  | .dateTime s => ⟨"dateTime.iso8601", [], s⟩
  | .struct members => ⟨"struct", memberElements members, ""⟩
  | .array values => ⟨"array", [⟨"data", valueElements values, ""⟩], ""⟩
  | .nil => ⟨"nil", [], ""⟩

def memberElements : List (String × Value) → List Element
  | [] => []
  | (name, v) :: rest =>
    ⟨"member", [⟨"name", [], name⟩, ⟨"value", [v.typeElement], ""⟩], ""⟩ :: memberElements rest

def valueElements : List Value → List Element
  | [] => []
  | v :: rest => ⟨"value", [v.typeElement], ""⟩ :: valueElements rest

end

/-- The element of a value. -/
def toElement (v : Value) : Element := ⟨"value", [v.typeElement], ""⟩

end Value

/-- The tree of a call. -/
def callElement (method : String) (parameters : List Value) : Element :=
  ⟨"methodCall", [⟨"methodName", [], method⟩,
    ⟨"params", parameters.map fun v => ⟨"param", [v.toElement], ""⟩, ""⟩], ""⟩

/-- The characters of numbers as they are written. -/
def isNumeralChar (c : Char) : Bool := Xml.isNameChar c || c == '-'

theorem entityName?_of_isNumeralChar {c : Char} (h : isNumeralChar c = true) :
    Xml.entityName? c = none := by
  simp only [Xml.entityName?]
  split
  all_goals first | rfl | (revert h; decide)

/-- Numbers are written without references. -/
theorem escape_eq_self {s : List Char} (h : ∀ c ∈ s, isNumeralChar c = true) :
    Xml.escape s = s := by
  induction s with
  | nil => rfl
  | cons c s ih =>
    have hc : Xml.escapeChar c = [c] := by
      rw [Xml.escapeChar, entityName?_of_isNumeralChar (h c List.mem_cons_self)]
    have hrest := ih fun d hd => h d (List.mem_cons_of_mem _ hd)
    rw [Xml.escape, List.flatMap_cons, hc]
    exact congrArg (c :: ·) hrest

theorem bounds_of_isNumeralChar {c : Char} (h : isNumeralChar c = true) :
    33 ≤ c.toNat ∧ c.toNat ≤ 126 := by
  have hclass : (((c.isUpper || c.isLower) || c.isDigit) || c == '.') || c == '-' := h
  simp only [Bool.or_eq_true, beq_iff_eq] at hclass
  rcases hclass with (((hc | hc) | hc) | rfl) | rfl
  · have hbounds : 65 ≤ c.toNat ∧ c.toNat ≤ 90 := of_decide_eq_true hc
    omega
  · have hlower := Bool.and_eq_true_iff.1 hc
    have hbounds : 97 ≤ c.toNat ∧ c.toNat ≤ 122 :=
      ⟨of_decide_eq_true hlower.1, of_decide_eq_true hlower.2⟩
    omega
  · have hdigit := Bool.and_eq_true_iff.1 hc
    have hbounds : 48 ≤ c.toNat ∧ c.toNat ≤ 57 :=
      ⟨of_decide_eq_true hdigit.1, of_decide_eq_true hdigit.2⟩
    omega
  · decide
  · decide

/-- Nothing is trimmed off a number. -/
theorem isBlank_of_isNumeralChar {c : Char} (h : isNumeralChar c = true) :
    Text.isBlank c = false := by
  have hc := bounds_of_isNumeralChar h
  simp only [Text.isBlank, Bool.or_eq_false_iff, Bool.and_eq_false_iff, decide_eq_false_iff_not,
    beq_eq_false_iff_ne]
  omega

theorem isNumeralChar_of_mem_toDigits {n : Nat} {c : Char} (h : c ∈ Nat.toDigits 10 n) :
    isNumeralChar c = true := by
  have hdigit : c.isDigit = true := Nat.isDigit_of_mem_toDigits (by decide) (by decide) h
  have halphanum : c.isAlphanum = true := by
    rw [Char.isAlphanum, hdigit, Bool.or_true]
  simp [isNumeralChar, Xml.isNameChar, halphanum]

theorem isNumeralChar_of_mem_intText {i : Int} {c : Char} (h : c ∈ (Decimal.intText i).toList) :
    isNumeralChar c = true := by
  cases i with
  | ofNat n =>
    have htext : (Decimal.intText (Int.ofNat n)).toList = Nat.toDigits 10 n := Nat.toList_repr
    rw [htext] at h
    exact isNumeralChar_of_mem_toDigits h
  | negSucc n =>
    have htext : (Decimal.intText (Int.negSucc n)).toList = '-' :: Nat.toDigits 10 (n + 1) := by
      change ("-" ++ Nat.repr (n + 1)).toList = _
      rw [String.toList_append, Nat.toList_repr]
      rfl
    rw [htext] at h
    rcases List.mem_cons.1 h with rfl | h
    · decide
    · exact isNumeralChar_of_mem_toDigits h

theorem isNumeralChar_of_mem_positional {digits : List Char} {place : Int}
    (hdigits : ∀ c ∈ digits, isNumeralChar c = true) {c : Char}
    (h : c ∈ Decimal.Binary64.positional digits place) : isNumeralChar c = true := by
  have hzeros : ∀ n, c ∈ List.replicate n '0' → isNumeralChar c = true := by
    intro n hc
    rw [List.eq_of_mem_replicate hc]
    decide
  simp only [Decimal.Binary64.positional] at h
  split at h
  · rcases List.mem_append.1 h with h | h
    · rcases List.mem_cons.1 h with rfl | h
      · decide
      · rcases List.mem_cons.1 h with rfl | h
        · decide
        · exact hzeros _ h
    · exact hdigits c h
  · split at h
    · rcases List.mem_append.1 h with h | h
      · exact hdigits c h
      · exact hzeros _ h
    · rcases List.mem_append.1 h with h | h
      · exact hdigits c (List.mem_of_mem_take h)
      · rcases List.mem_cons.1 h with rfl | h
        · decide
        · exact hdigits c (List.mem_of_mem_drop h)

theorem isNumeralChar_of_mem_text {x : Decimal.Binary64} {c : Char} (h : c ∈ x.text.toList) :
    isNumeralChar c = true := by
  by_cases hnan : x.isNaN = true
  · rw [Decimal.Binary64.text, if_pos hnan] at h
    exact List.all_eq_true.1 (by decide : "NaN".toList.all isNumeralChar = true) c h
  · have hbody : ∀ body : List Char, (∀ d ∈ body, isNumeralChar d = true) →
        c ∈ (String.ofList (if x.isNegative then '-' :: body else body)).toList →
        isNumeralChar c = true := by
      intro body hdigits hc
      rw [String.toList_ofList] at hc
      split at hc
      · rcases List.mem_cons.1 hc with rfl | hc
        · decide
        · exact hdigits c hc
      · exact hdigits c hc
    simp only [Decimal.Binary64.text, if_neg hnan] at h
    refine hbody _ (fun d hd => ?_) h
    split at hd
    · exact List.all_eq_true.1 (by decide : "inf".toList.all isNumeralChar = true) d hd
    · split at hd
      · exact List.all_eq_true.1 (by decide : ['0'].all isNumeralChar = true) d hd
      · refine isNumeralChar_of_mem_positional (fun e he => ?_) hd
        have hmem := (List.dropWhile_sublist _).mem (List.mem_reverse.1 he)
        exact isNumeralChar_of_mem_toDigits (List.mem_reverse.1 hmem)

namespace Value

theorem element_eq (name : String) (content : List Char) :
    element name content = Xml.tagged name.toList content := by
  simp [element, Xml.tagged, ToString.toString]

theorem spells_element {name : String} {content : List Char} {children : List Element}
    (hname : IsPlainName name.toList) (h : Spells content children) :
    Spells (element name content) [⟨name, children, ""⟩] := by
  rw [element_eq]
  simpa using Spells.tagged hname h

theorem spells_text {name : String} (hname : IsPlainName name.toList) (s : String) :
    Spells (element name (escaped s)) [⟨name, [], s⟩] := by
  rw [element_eq, escaped]
  simpa using Spells.text hname s.toList

/-- A number is written as it is. -/
theorem spells_numeral {name : String} (hname : IsPlainName name.toList) {s : String}
    (hs : ∀ c ∈ s.toList, isNumeralChar c = true) :
    Spells (element name s.toList) [⟨name, [], s⟩] := by
  have h := spells_text hname s
  rwa [escaped, escape_eq_self hs] at h

mutual

theorem spells_encodeTyped : ∀ v : Value, Spells (encodeTyped v) [v.typeElement]
  | .string s => spells_text (by decide) s
  | .int n => spells_numeral (by decide) fun _ => isNumeralChar_of_mem_intText
  | .boolean b => by
    cases b
    · exact spells_text (by decide) "0"
    · exact spells_text (by decide) "1"
  | .double x => spells_numeral (by decide) fun _ => isNumeralChar_of_mem_text
  | .dateTime s => spells_text (by decide) s
  | .struct members => spells_element (by decide) (spells_encodeMembers members)
  | .array values =>
    spells_element (by decide) (spells_element (by decide) (spells_encodeAll values))
  | .nil => (Spells.closed (by decide) : Spells ('<' :: ("nil".toList ++ ['/', '>'])) _)

theorem spells_encodeMembers : ∀ members : List (String × Value),
    Spells (encodeMembers members) (memberElements members)
  | [] => Spells.nil
  | (name, v) :: rest => by
    have hname : Spells (element "name" (escaped name)) [⟨"name", [], name⟩] :=
      spells_text (by decide) name
    have hvalue : Spells (element "value" (encodeTyped v)) [⟨"value", [v.typeElement], ""⟩] :=
      spells_element (by decide) (spells_encodeTyped v)
    have hmember : Spells (element "member" _) [⟨"member", _, ""⟩] :=
      spells_element (by decide) (hname.append hvalue)
    exact hmember.append (spells_encodeMembers rest)

theorem spells_encodeAll : ∀ values : List Value,
    Spells (encodeAll values) (valueElements values)
  | [] => Spells.nil
  | v :: rest =>
    (spells_element (by decide) (spells_encodeTyped v)).append (spells_encodeAll rest)

end

theorem spells_encode (v : Value) : Spells v.encode [v.toElement] := by
  rw [encode]
  exact spells_element (by decide) (spells_encodeTyped v)

end Value

theorem Value.spells_parameters (parameters : List Value) :
    Spells (parameters.flatMap fun v => element "param" v.encode)
      (parameters.map fun v => ⟨"param", [v.toElement], ""⟩) := by
  induction parameters with
  | nil => exact Spells.nil
  | cons v parameters ih =>
    rw [List.flatMap_cons, List.map_cons]
    exact (spells_element (by decide) (spells_encode v)).append ih

/-- A call is read as its tree. -/
theorem read_methodCall (method : String) (parameters : List Value) :
    Element.read (methodCall method parameters).toList = .ok (callElement method parameters) := by
  have hmethod : Spells (Value.element "methodName" (Value.escaped method))
      [⟨"methodName", [], method⟩] := Value.spells_text (by decide) method
  have hparameters : Spells (Value.element "params" _) [⟨"params", _, ""⟩] :=
    Value.spells_element (by decide) (Value.spells_parameters parameters)
  have hcall : Spells (Value.element "methodCall" _) [callElement method parameters] :=
    Value.spells_element (by decide) (hmethod.append hparameters)
  have hdeclaration : Spells "<?xml version=\"1.0\"?>".toList [] := by
    have htext : "<?xml version=\"1.0\"?>".toList
        = '<' :: '?' :: ("xml version=\"1.0\"".toList ++ ['?', '>']) := by decide
    rw [htext]
    exact Spells.instruction (by decide)
  have hspells := hdeclaration.append hcall
  have htext : (methodCall method parameters).toList = "<?xml version=\"1.0\"?>".toList ++ _ :=
    String.toList_ofList
  rw [htext]
  exact Element.read_of_spells hspells rfl

end ReleaseGap.XmlRpc
