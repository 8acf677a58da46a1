import ReleaseGap.Decimal.Shortest
import ReleaseGap.Keyed
import ReleaseGap.Xml.Entity

/-!
# XML-RPC values

The values that remote calls pass, and their text.
-/

namespace ReleaseGap.XmlRpc

inductive Value where
  | string (text : String)
  | int (n : Int64)
  | boolean (b : Bool)
  | double (x : Decimal.Binary64)
  /-- A date and time, kept as it is written. -/
  | dateTime (text : String)
  /-- Members by name, in the order of the names. -/
  | struct (members : List (String × Value))
  | array (values : List Value)
  | nil
deriving Inhabited

namespace Value

/-- The text of a string. -/
def text? : Value → Option String
  | .string s => some s
  | _ => none

/-- The members of a struct. -/
def members? : Value → Option (List (String × Value))
  | .struct members => some members
  | _ => none

/-- An element that holds some content. -/
def element (name : String) (content : List Char) : List Char :=
  s!"<{name}>".toList ++ content ++ s!"</{name}>".toList

def escaped (s : String) : List Char := Xml.escape s.toList

mutual

/-- A value as it is written. -/
def encode : Value → List Char
  | v => element "value" (encodeTyped v)

/-- A value inside of its element. -/
def encodeTyped : Value → List Char
  | .string s => element "string" (escaped s)
  | .int n => element "int" (Decimal.intText n.toInt).toList
  | .boolean b => element "boolean" [if b then '1' else '0']
  | .double x => element "double" x.text.toList
  | .dateTime s => element "dateTime.iso8601" (escaped s)
  | .struct members => element "struct" (encodeMembers members)
  | .array values => element "array" (element "data" (encodeAll values))
  | .nil => "<nil/>".toList

def encodeMembers : List (String × Value) → List Char
  | [] => []
  | (name, v) :: rest =>
    element "member" (element "name" (escaped name) ++ element "value" (encodeTyped v))
      ++ encodeMembers rest

def encodeAll : List Value → List Char
  | [] => []
  | v :: rest => element "value" (encodeTyped v) ++ encodeAll rest

end

end Value

/-- The text of a call. -/
def methodCall (method : String) (parameters : List Value) : String :=
  let body := parameters.flatMap fun v => Value.element "param" v.encode
  String.ofList <| "<?xml version=\"1.0\"?>".toList ++ Value.element "methodCall"
    (Value.element "methodName" (Value.escaped method) ++ Value.element "params" body)

end ReleaseGap.XmlRpc
