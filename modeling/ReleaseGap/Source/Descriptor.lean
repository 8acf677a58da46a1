import ReleaseGap.Text.Blank
import ReleaseGap.Xml.Entity
import ReleaseGap.Xml.Namespace

/-!
# Project descriptors

The version that a project descriptor declares: the text of a `version` element directly below the
root and in the namespace of the root, so never the version of a parent, of a dependency or of
another vocabulary.
-/

namespace ReleaseGap.Descriptor

open Xml (Event Scope)

/-- Where a reader of a descriptor stands. -/
structure Place where
  /-- The declarations in force, one scope for each open element and one for the document. -/
  scopes : List Scope := [Scope.outermost]
  depth : Nat := 0
  rootNamespace : Option (List Char) := none
  inVersion : Bool := false

/-- The declarations in force inside of the innermost open element. -/
def Place.scope (p : Place) : Scope := p.scopes.headD Scope.outermost

/-- What an event leads to: a place further on, the version, or a fault. -/
inductive Progress where
  | at (p : Place)
  | found (version : String)
  | malformed

def Place.enter (p : Place) (tag : Xml.Tag) : Progress :=
  match p.scope.enter? tag with
  | none => .malformed
  | some scope =>
    let here := scope.resolve tag.name
    let p := { p with scopes := scope :: p.scopes, depth := p.depth + 1 }
    if p.depth = 1 then .at { p with rootNamespace := here }
    else if p.depth = 2 ∧ Xml.localName tag.name = "version".toList ∧ here = p.rootNamespace then
      .at { p with inVersion := true }
    else .at p

def Place.step (p : Place) : Event → Progress
  | .start tag => p.enter tag
  | .empty tag => if (p.scope.enter? tag).isNone then .malformed else .at p
  | .finish _ => .at { p with
      scopes := p.scopes.tail, depth := p.depth - 1, inVersion := false }
  | .text raw =>
    if p.inVersion then
      match Xml.unescape? raw with
      | some text => .found (String.ofList (Text.trim text))
      | none => .malformed
    else .at p
  | _ => .at p

/-- The version that the events from a place on lead to, if they lead to one. -/
def versionFrom (complete : Bool) (p : Place) : List Event → Option (Option String)
  | [] => if complete then some none else none
  | e :: rest =>
    match p.step e with
    | .at p => versionFrom complete p rest
    | .found version => some (some version)
    | .malformed => none

/-- The version that a descriptor declares, if it declares one; `none` when a fault comes before. -/
def version? (document : String) : Option (Option String) :=
  let reading := Xml.read document.toList
  versionFrom reading.complete {} (Xml.trimTexts reading.events)

end ReleaseGap.Descriptor
