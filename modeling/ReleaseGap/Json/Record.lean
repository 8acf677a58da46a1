import ReleaseGap.Json.Value

/-!
# Records in JSON

A record is an object, or an array of the fields in the order in which they are declared.  Members
that are not declared count for nothing, declared ones must not be repeated.
-/

namespace ReleaseGap.Json.Value

/-- The one value under a key: none if there is no such member, and a failure if there are several.
-/
def only? (key : String) (members : List (Option String × Value)) : Option (Option Value) :=
  match members.filter (·.1 = some key) with
  | [] => some none
  | [m] => some (some m.2)
  | _ => none

/-- The values of the declared fields. -/
def fields? (declared : List String) : Value → Option (List (Option Value))
  | .object members =>
    if members.all (·.1.isSome) then declared.mapM (only? · members) else none
  | .array items =>
    if items.length ≤ declared.length then
      some (items.map some ++ List.replicate (declared.length - items.length) none)
    else none
  | _ => none

def text? : Value → Option String
  | .string text => text
  | _ => none

def items? : Value → Option (List Value)
  | .array items => some items
  | _ => none

/-- The members of an object with keys of any kind, in the order in which they are written. -/
def members? : Value → Option (List (String × Value))
  | .object members => members.mapM fun m => m.1.map (·, m.2)
  | _ => none

/-- The text of a field that may be missing or null. -/
def optionalText? : Option Value → Option (Option String)
  | none => some none
  | some .null => some none
  | some v => v.text?.map some

end ReleaseGap.Json.Value
