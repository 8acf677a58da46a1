/-!
# JSON values

A document as a value.  Numbers are not evaluated, and a string whose escapes name half of a
surrogate pair has no text; it is in order where nothing asks for it.
-/

namespace ReleaseGap.Json

inductive Value where
  | null
  | bool (b : Bool)
  | number
  | string (text : Option String)
  | array (items : List Value)
  /-- Members in the order in which they are written, repeated ones included. -/
  | object (members : List (Option String × Value))
deriving Inhabited

end ReleaseGap.Json
