import ReleaseGap.Xml.Content

/-!
# Records

Elements read as records of named fields.  A field is named without what stands before its colon.
What is not asked for is passed over, but a text has to be readable all the same wherever a record
is looked into, and attributes have to be in order.
-/

namespace ReleaseGap.Xml

/-- Whether content can be passed over. -/
def Content.isPassable : Content → Bool
  | .text t => t.isSome
  | .element _ (.text t :: _) => t.isSome
  | .element _ _ => true

def Content.isNamed (name : String) : Content → Bool
  | .element tag _ => localName tag.name = name.toList
  | .text _ => false

/-- Whether content is an element with this tag name, colon and all. -/
def Content.hasTag (tagName : List Char) : Content → Bool
  | .element tag _ => tag.name = tagName
  | .text _ => false

def Content.isText : Content → Bool
  | .text _ => true
  | .element _ _ => false

/-- An element read as a record. -/
structure Record where
  attributes : List Attribute
  content : List Content

/-- The record of an element, whose attributes must be in order and have different names. -/
def Content.record? : Content → Option Record
  | .text _ => none
  | .element tag content =>
    let attributes := tag.attributes
    if attributes.complete ∧ (attributes.list.map (·.name)).Nodup then
      some ⟨attributes.list, content⟩
    else none

/-- The text of an element that holds nothing but one text. -/
def Content.string? : Content → Option (List Char)
  | .element _ [] => some []
  | .element _ [.text t] => t
  | _ => none

namespace Record

/-- Whether all that is not one of the fields can be passed over. -/
def isPassableBut (r : Record) (fields : List String) : Bool :=
  r.content.all fun c => fields.any (c.isNamed ·) || c.isPassable

/-- The field of a name: none, one, or a failure if there are several. -/
def field? (r : Record) (name : String) : Option (Option Content) :=
  match r.content.filter (·.isNamed name) with
  | [] => some none
  | [c] => some (some c)
  | _ => none

/-- The value of an attribute as it is written.  Declarations of namespaces are no attributes. -/
def attribute? (r : Record) (name : String) : Option (List Char) :=
  let found := r.attributes.filter fun a =>
    localName a.name = name.toList && !("xmlns:".toList.isPrefixOf a.name)
  match found with
  | [a] => some a.value
  | _ => none

/-- The fields of a name that follow each other directly.  They bear one tag name, no text stands
among or right behind them, and none comes later. -/
def fields? (r : Record) (name : String) : Option (List Content) :=
  match r.content.dropWhile (!·.isNamed name) with
  | .element tag content :: rest =>
    let others := rest.dropWhile (·.hasTag tag.name)
    if others.head?.any Content.isText || others.any (·.isNamed name) then none
    else some (.element tag content :: rest.takeWhile (·.hasTag tag.name))
  | _ => some []

end Record

end ReleaseGap.Xml
