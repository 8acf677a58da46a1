import ReleaseGap.Xml.Attribute

/-!
# Namespaces

The namespace a name lies in, by the declarations of the tags it stands in.
-/

namespace ReleaseGap.Xml

/-- The declarations in force, innermost first; the default namespace has an empty prefix. -/
abbrev Scope := List (List Char × List Char)

def xmlNamespace : List Char := "http://www.w3.org/XML/1998/namespace".toList

def xmlnsNamespace : List Char := "http://www.w3.org/2000/xmlns/".toList

/-- The declarations in force outside of every element. -/
def Scope.outermost : Scope := [("xmlns".toList, xmlnsNamespace), ("xml".toList, xmlNamespace)]

/-- The prefix that an attribute declares, if it declares one. -/
def Attribute.declared? (a : Attribute) : Option (List Char) :=
  if a.name = "xmlns".toList then some []
  else if "xmlns:".toList.isPrefixOf a.name then some (a.name.drop 6)
  else none

/-- Adds one declaration.  The reserved prefixes and namespaces belong to each other. -/
def Scope.declare? (scope : Scope) (a : Attribute) : Option Scope :=
  match a.declared? with
  | none => some scope
  | some declared =>
    if a.name = "xmlns".toList then some (([], a.value) :: scope)
    else if declared = "xml".toList then
      if a.value = xmlNamespace then some scope else none
    else if declared = "xmlns".toList then none
    else if a.value = xmlNamespace ∨ a.value = xmlnsNamespace then none
    else some ((declared, a.value) :: scope)

/-- The declarations in force inside of a tag; none if it misuses a reserved one. -/
def Scope.enter? (scope : Scope) (tag : Tag) : Option Scope :=
  tag.attributes.list.foldlM Scope.declare? scope

/-- The namespace of an element's name: none for a name outside of every namespace, and for one
whose prefix is not declared. -/
def Scope.resolve (scope : Scope) (name : List Char) : Option (List Char) :=
  let found := match namePrefix? name with
    | none => scope.lookup []
    | some [] => none
    | some p => scope.lookup p
  found.filter (!·.isEmpty)

end ReleaseGap.Xml
