import Mathlib.Data.List.Forall2
import ReleaseGap.Proofs.Decimal.Numeral
import ReleaseGap.Proofs.Text.Cutting
import ReleaseGap.Proofs.XmlRpc.Tree

/-!
# Calls read back

The parameters of a call are decoded to the values they were encoded from.  Values differ from their
encoding only where reading trims or rounds: a date with blanks around it and a number whose text
reads back as another one.
-/
namespace ReleaseGap.XmlRpc

open Xml (Element)

namespace Value

variable (p : Value → Prop)

mutual

/-- Whether `p` holds of a value and of all values inside of it. -/
def All : Value → Prop
  | .struct members => p (.struct members) ∧ AllMembers members
  | .array values => p (.array values) ∧ AllOf values
  | v => p v

def AllMembers : List (String × Value) → Prop
  | [] => True
  | (_, v) :: rest => v.All ∧ AllMembers rest

def AllOf : List Value → Prop
  | [] => True
  | v :: rest => v.All ∧ AllOf rest

end

mutual

/-- What can be decided of each value can be decided of all values inside of one. -/
def decidableAll [DecidablePred p] : (v : Value) → Decidable (v.All p)
  | .struct members => @instDecidableAnd _ _ inferInstance (decidableAllMembers members)
  | .array values => @instDecidableAnd _ _ inferInstance (decidableAllOf values)
  | .string s => inferInstanceAs (Decidable (p (.string s)))
  | .int n => inferInstanceAs (Decidable (p (.int n)))
  | .boolean b => inferInstanceAs (Decidable (p (.boolean b)))
  | .double x => inferInstanceAs (Decidable (p (.double x)))
  | .dateTime s => inferInstanceAs (Decidable (p (.dateTime s)))
  | .nil => inferInstanceAs (Decidable (p .nil))

def decidableAllMembers [DecidablePred p] : (members : List (String × Value)) →
    Decidable (AllMembers p members)
  | [] => .isTrue trivial
  | (_, v) :: rest => @instDecidableAnd _ _ (decidableAll v) (decidableAllMembers rest)

def decidableAllOf [DecidablePred p] : (values : List Value) → Decidable (AllOf p values)
  | [] => .isTrue trivial
  | v :: rest => @instDecidableAnd _ _ (decidableAll v) (decidableAllOf rest)

end

instance [DecidablePred p] (v : Value) : Decidable (v.All p) := decidableAll p v

/-- A struct maps names to values: its members are in the order of their names, each name once. -/
def IsKeyed : Value → Prop
  | .struct members => Keyed.IsOrdered members
  | _ => True

/-- A date has no blanks around it. -/
def IsTrimmed : Value → Prop
  | .dateTime s => Text.trim s.toList = s.toList
  | _ => True

/-- The text of a number reads back as the number. -/
def ReadsBack : Value → Prop
  | .double x => Decimal.Binary64.ofText? x.text.toList = some x
  | _ => True

/-- Members and dates as decoding leaves them. -/
def IsCanonical (v : Value) : Prop := v.IsKeyed ∧ v.IsTrimmed

/-- All that a value needs to be decoded from its encoding. -/
def IsFaithful (v : Value) : Prop := v.IsCanonical ∧ v.ReadsBack

instance : DecidablePred IsKeyed
  | .struct members => inferInstanceAs (Decidable (Keyed.IsOrdered members))
  | .string _ | .int _ | .boolean _ | .double _ | .dateTime _ | .array _ | .nil => .isTrue trivial

instance : DecidablePred IsTrimmed
  | .dateTime s => inferInstanceAs (Decidable (Text.trim s.toList = s.toList))
  | .string _ | .int _ | .boolean _ | .double _ | .struct _ | .array _ | .nil => .isTrue trivial

instance : DecidablePred ReadsBack
  | .double x => inferInstanceAs (Decidable (Decimal.Binary64.ofText? x.text.toList = some x))
  | .string _ | .int _ | .boolean _ | .dateTime _ | .struct _ | .array _ | .nil => .isTrue trivial

instance : DecidablePred IsCanonical := fun v =>
  inferInstanceAs (Decidable (v.IsKeyed ∧ v.IsTrimmed))

instance : DecidablePred IsFaithful := fun v =>
  inferInstanceAs (Decidable (v.IsCanonical ∧ v.ReadsBack))

end Value

theorem isTrimmed_of_isNumeralChar {s : List Char} (h : ∀ c ∈ s, isNumeralChar c = true) :
    Text.IsTrimmed s :=
  ⟨fun c hc => isBlank_of_isNumeralChar (h c (List.mem_of_mem_head? hc)),
    fun c hc => isBlank_of_isNumeralChar (h c (List.mem_of_mem_getLast? hc))⟩

/-- Numbers are read as they are written. -/
theorem onChars_trim_eq_self {s : String} (h : ∀ c ∈ s.toList, isNumeralChar c = true) :
    Text.onChars Text.trim s = s := by
  rw [Text.onChars, Text.trim_eq_self (isTrimmed_of_isNumeralChar h), String.ofList_toList]

theorem scalar?_int (n : Int64) :
    scalar? "int" (Decimal.intText n.toInt) = .ok (.int n) := by
  have hlow : -((Nat.pow 2 63 : Nat) : Int) ≤ n.toInt := Int64.le_toInt n
  have hhigh : n.toInt < (Nat.pow 2 63 : Nat) := Int64.toInt_lt n
  simp only [scalar?, onChars_trim_eq_self fun _ => isNumeralChar_of_mem_intText,
    Decimal.intWithin?_intText hlow hhigh, Int64.ofInt_toInt]

theorem scalar?_boolean (b : Bool) :
    scalar? "boolean" (if b then "1" else "0") = .ok (.boolean b) := by
  have hone : Text.onChars Text.trim "1" = "1" := by decide
  have hzero : Text.onChars Text.trim "0" = "0" := by decide
  cases b
  · simp only [scalar?, Bool.false_eq_true, if_false, hzero]
  · simp only [scalar?, if_true, hone]

theorem scalar?_double {x : Decimal.Binary64}
    (h : Decimal.Binary64.ofText? x.text.toList = some x) :
    scalar? "double" x.text = .ok (.double x) := by
  simp only [scalar?, onChars_trim_eq_self fun _ => isNumeralChar_of_mem_text, h]

theorem scalar?_dateTime {s : String} (h : Text.trim s.toList = s.toList) :
    scalar? "dateTime.iso8601" s = .ok (.dateTime s) := by
  simp only [scalar?, Text.onChars, h, String.ofList_toList]

theorem decodeTyped_scalar {name : String} (hstruct : name ≠ "struct") (harray : name ≠ "array")
    (children : List Element) (text : String) :
    decodeTyped ⟨name, children, text⟩ = scalar? name text := by
  rw [decodeTyped, if_neg hstruct, if_neg harray]

-- By recursion on the value.  Decoding puts members into a keyed list, which they were before.
mutual

theorem decodeTyped_typeElement : ∀ v : Value, v.All Value.IsFaithful →
    decodeTyped v.typeElement = .ok v
  | .string s, _ => by
    rw [Value.typeElement, decodeTyped_scalar (by decide) (by decide)]
    simp only [scalar?]
  | .int n, _ => by
    rw [Value.typeElement, decodeTyped_scalar (by decide) (by decide), scalar?_int]
  | .boolean b, _ => by
    rw [Value.typeElement, decodeTyped_scalar (by decide) (by decide)]
    exact scalar?_boolean b
  | .double x, h => by
    rw [Value.typeElement, decodeTyped_scalar (by decide) (by decide), scalar?_double h.2]
  | .dateTime s, h => by
    rw [Value.typeElement, decodeTyped_scalar (by decide) (by decide), scalar?_dateTime h.1.2]
  | .struct members, h => by
    have hmembers := decodeMembers_memberElements members h.2
    rw [Value.typeElement, decodeTyped, if_pos rfl, hmembers]
    simp only [Except.map, Keyed.ofPairs_eq_self h.1.1.1]
  | .array values, h => by
    have hvalues := decodeAll_valueElements values h.2
    rw [Value.typeElement, decodeTyped, if_neg (by decide), if_pos rfl, decodeData, if_pos rfl,
      hvalues]
    rfl
  | .nil, _ => by
    rw [Value.typeElement, decodeTyped_scalar (by decide) (by decide)]
    simp only [scalar?]

theorem decodeMembers_memberElements : ∀ members : List (String × Value),
    Value.AllMembers Value.IsFaithful members →
    decodeMembers (Value.memberElements members) = .ok members
  | [], _ => by rw [Value.memberElements, decodeMembers]
  | (name, v) :: rest, h => by
    have hvalue := decodeTyped_typeElement v h.1
    have hrest := decodeMembers_memberElements rest h.2
    rw [Value.memberElements, decodeMembers, if_pos rfl]
    simp only [List.find?_cons, beq_self_eq_true, decodeMember, decode, hvalue, hrest]
    rfl

theorem decodeAll_valueElements : ∀ values : List Value,
    Value.AllOf Value.IsFaithful values →
    decodeAll (Value.valueElements values) = .ok values
  | [], _ => by rw [Value.valueElements, decodeAll]
  | v :: rest, h => by
    have hvalue := decodeTyped_typeElement v h.1
    have hrest := decodeAll_valueElements rest h.2
    rw [Value.valueElements, decodeAll, if_pos rfl, decode, hvalue, hrest]
    rfl

end

/-- A value is decoded from its element. -/
theorem decode_toElement {v : Value} (h : v.All Value.IsFaithful) :
    decode v.toElement = .ok v := by
  rw [Value.toElement, decode, decodeTyped_typeElement v h]

/-- An element is the parameter that passes a value: it holds one value and nothing else. -/
def IsParameter (e : Element) (v : Value) : Prop :=
  e.name = "param" ∧ ∃ value, e.children = [value] ∧ value.name = "value" ∧ decode value = .ok v

/-- A document is read as a call and as nothing more: the name of the method is a text without
markup, and there is one parameter for each value, in their order. -/
def ReadsAs (document method : String) (parameters : List Value) : Prop :=
  ∃ root name list : Element,
    Element.read document.toList = .ok root ∧ root.name = "methodCall" ∧
    root.children = [name, list] ∧
    name.name = "methodName" ∧ name.children = [] ∧ name.text = method ∧
    list.name = "params" ∧ List.Forall₂ IsParameter list.children parameters

theorem isParameter_rightUnique : Relator.RightUnique IsParameter := by
  rintro e v w ⟨-, value, hvalue, -, hv⟩ ⟨-, value', hvalue', -, hw⟩
  obtain rfl : value = value' := by simpa using hvalue.symm.trans hvalue'
  exact Except.ok.inj (hv.symm.trans hw)

/-- A document is read as one call at most. -/
theorem ReadsAs.unique {document method method' : String} {parameters parameters' : List Value}
    (h : ReadsAs document method parameters) (h' : ReadsAs document method' parameters') :
    method = method' ∧ parameters = parameters' := by
  obtain ⟨root, name, list, hroot, -, hchildren, -, -, rfl, -, hlist⟩ := h
  obtain ⟨root', name', list', hroot', -, hchildren', -, -, rfl, -, hlist'⟩ := h'
  obtain rfl : root = root' := Except.ok.inj (hroot.symm.trans hroot')
  obtain ⟨rfl, rfl⟩ : name = name' ∧ list = list' := by
    simpa using hchildren.symm.trans hchildren'
  exact ⟨rfl, isParameter_rightUnique.forall₂ hlist hlist'⟩

theorem readsAs_methodCall {parameters : List Value}
    (h : ∀ v ∈ parameters, v.All Value.IsFaithful) (method : String) :
    ReadsAs (methodCall method parameters) method parameters := by
  refine ⟨_, _, _, read_methodCall method parameters, rfl, rfl, rfl, rfl, rfl, rfl, ?_⟩
  rw [List.forall₂_map_left_iff, List.forall₂_same]
  exact fun v hv => ⟨rfl, v.toElement, rfl, rfl, decode_toElement (h v hv)⟩

/-- Encoding is undone by decoding, so calls that differ are written differently. -/
theorem methodCall_round_trip (method : String) (parameters : List Value)
    (h : ∀ v ∈ parameters, v.All Value.IsFaithful) :
    ReadsAs (methodCall method parameters) method parameters ∧
    ∀ method' parameters', (∀ v ∈ parameters', v.All Value.IsFaithful) →
      methodCall method' parameters' = methodCall method parameters →
      method' = method ∧ parameters' = parameters := by
  have hreads := readsAs_methodCall h method
  refine ⟨hreads, fun method' parameters' h' heq => ?_⟩
  have hreads' := readsAs_methodCall h' method'
  rw [heq] at hreads'
  exact hreads'.unique hreads

/-- Values of every type, with markup, quotes, line breaks and blanks in their texts. -/
def sampleValues : List Value :=
  [.struct [("", .string "</value>\n"), ("<a&b>", .array [.nil, .boolean true, .array []]),
      ("c", .struct [])],
    .int (-7), .double ⟨0x3FE0000000000000⟩, .dateTime "20240101T00:00:00 & \"later\"",
    .string " ]]> "]

theorem methodCall_round_trip_sample :
    (∀ v ∈ sampleValues, v.All Value.IsFaithful) ∧
    ReadsAs (methodCall "<store>" sampleValues) "<store>" sampleValues := by
  have h : ∀ v ∈ sampleValues, v.All Value.IsFaithful := by decide +kernel
  exact ⟨h, (methodCall_round_trip "<store>" sampleValues h).1⟩

end ReleaseGap.XmlRpc
