import ReleaseGap.XmlRpc.Decode

/-!
# XML-RPC responses

A response holds one value or a fault, in a document of its own.
-/

namespace ReleaseGap.XmlRpc

open Xml (Element TreeError)

/-- Why a document is no response. -/
inductive ProtocolError where
  | unbalanced
  | unclosed
  | notOneRoot
  | unexpectedRoot (name : String)
  | withoutValue
  | undecodable (e : DecodeError)
deriving DecidableEq, Repr

def ProtocolError.message : ProtocolError → String
  | .unbalanced => "unbalanced document"
  | .unclosed => "unclosed element"
  | .notOneRoot => "expected a single root element"
  | .unexpectedRoot name => s!"unexpected root element `{name}`"
  | .withoutValue => "response without a value"
  | .undecodable e => e.message

/-- What the server says has failed. -/
structure Fault where
  code : Int64 := 0
  text : String := "unknown fault"
deriving DecidableEq, Repr

inductive ResponseError where
  /-- The response is no well-formed document. -/
  | malformed
  | protocol (e : ProtocolError)
  | fault (f : Fault)
deriving DecidableEq, Repr

def ResponseError.message : ResponseError → String
  | .malformed => "malformed XML"
  | .protocol e => s!"invalid XML-RPC response: {e.message}"
  | .fault f => s!"XML-RPC fault {f.code}: {f.text}"

def ResponseError.ofTree : TreeError → ResponseError
  | .malformed => .malformed
  | .unbalanced => .protocol .unbalanced
  | .unclosed => .protocol .unclosed
  | .notOneRoot => .protocol .notOneRoot

def decodeResult (e : Element) : Except ResponseError Value :=
  (decode e).mapError fun e => .protocol (.undecodable e)

/-- The fault that an element describes; what it does not say keeps its default. -/
def Fault.ofElement (e : Element) : Fault :=
  let members : List (String × Value) := match (e.child? "value").map decode with
    | some (.ok (.struct members)) => members
    | _ => []
  { code := match Keyed.find? "faultCode" members with
      | some (.int n) => n
      | _ => 0
    text := match Keyed.find? "faultString" members with
      | some (.string s) => s
      | _ => "unknown fault" }

/-- The value that the root of a response holds. -/
def Element.result (root : Element) : Except ResponseError Value :=
  if root.name ≠ "methodResponse" then .error (.protocol (.unexpectedRoot root.name))
  else match root.child? "fault" with
    | some fault => .error (.fault (Fault.ofElement fault))
    | none =>
      let value := do
        let parameters ← root.child? "params"
        let parameter ← parameters.child? "param"
        parameter.child? "value"
      match value with
      | some value => decodeResult value
      | none => .error (.protocol .withoutValue)

/-- Reads a response. -/
def readResponse (document : String) : Except ResponseError Value := do
  let root ← (Element.read document.toList).mapError ResponseError.ofTree
  Element.result root

end ReleaseGap.XmlRpc
