import ReleaseGap.Text.Blank
import ReleaseGap.Xml.Element
import ReleaseGap.XmlRpc.Value

/-!
# Reading XML-RPC values

A value without a type is a string.  Blanks around numbers, booleans and dates do not count, and
elements that are not asked for are passed over.
-/

namespace ReleaseGap.XmlRpc

open Xml (Element)

/-- Why an element is no value. -/
inductive DecodeError where
  | badInt (text : String)
  | badBoolean (text : String)
  | badDouble (text : String)
  | memberWithoutName
  | memberWithoutValue
  | unsupportedType (name : String)
deriving DecidableEq, Repr

def DecodeError.message : DecodeError → String
  | .badInt text => s!"bad int `{text}`"
  | .badBoolean text => s!"bad boolean `{text}`"
  | .badDouble text => s!"bad double `{text}`"
  | .memberWithoutName => "struct member without name"
  | .memberWithoutValue => "struct member without value"
  | .unsupportedType name => s!"unsupported type `{name}`"

/-- Reads a value that holds no other. -/
def scalar? (type text : String) : Except DecodeError Value :=
  let trimmed := Text.onChars Text.trim text
  match type with
  | "string" => .ok (.string text)
  | "int" | "i4" =>
    match Decimal.intWithin? (Nat.pow 2 63) trimmed.toList with
    | some n => .ok (.int (Int64.ofInt n))
    | none => .error (.badInt trimmed)
  | "boolean" =>
    match trimmed with
    | "1" => .ok (.boolean true)
    | "0" => .ok (.boolean false)
    | _ => .error (.badBoolean trimmed)
  | "double" =>
    match Decimal.Binary64.ofText? trimmed.toList with
    | some x => .ok (.double x)
    | none => .error (.badDouble trimmed)
  | "dateTime.iso8601" => .ok (.dateTime trimmed)
  | "nil" => .ok .nil
  | other => .error (.unsupportedType other)

mutual

/-- Reads a value. -/
def decode : Element → Except DecodeError Value
  | ⟨_, [], text⟩ => .ok (.string text)
  | ⟨_, typed :: _, _⟩ => decodeTyped typed

/-- Reads the element that says the type of a value. -/
def decodeTyped : Element → Except DecodeError Value
  | ⟨name, children, text⟩ =>
    if name = "struct" then
      (decodeMembers children).map fun members => .struct (Keyed.ofPairs members)
    else if name = "array" then (decodeData children).map .array
    else scalar? name text

/-- Reads the members of a struct, in the order in which they are written. -/
def decodeMembers : List Element → Except DecodeError (List (String × Value))
  | [] => .ok []
  | ⟨name, children, _⟩ :: rest =>
    if name = "member" then do
      let some key := children.find? (·.name == "name") | throw .memberWithoutName
      let value ← decodeMember children
      let others ← decodeMembers rest
      return (key.text, value) :: others
    else decodeMembers rest

/-- Reads the first value among the children of a member. -/
def decodeMember : List Element → Except DecodeError Value
  | [] => .error .memberWithoutValue
  | e :: rest => if e.name = "value" then decode e else decodeMember rest

/-- Reads the values in the first data element of an array; without one it has none. -/
def decodeData : List Element → Except DecodeError (List Value)
  | [] => .ok []
  | ⟨name, children, _⟩ :: rest =>
    if name = "data" then decodeAll children else decodeData rest

/-- Reads all values among some elements. -/
def decodeAll : List Element → Except DecodeError (List Value)
  | [] => .ok []
  | e :: rest =>
    if e.name = "value" then do
      let value ← decode e
      let others ← decodeAll rest
      return value :: others
    else decodeAll rest

end

end ReleaseGap.XmlRpc
