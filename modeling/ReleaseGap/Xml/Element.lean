import ReleaseGap.Xml.Entity
import ReleaseGap.Xml.Event

/-!
# Elements

A document as a tree of elements, each with its child elements and the character data directly
inside of it.  Attributes do not count, and names lose what stands before their colon.
-/

namespace ReleaseGap.Xml

structure Element where
  name : String
  children : List Element := []
  text : String := ""

/-- The first child with a name. -/
def Element.child? (e : Element) (name : String) : Option Element :=
  e.children.find? (·.name == name)

/-- An element that is not closed yet.  What it holds so far is kept backwards. -/
structure Frame where
  name : List Char
  children : List Element := []
  texts : List (List Char) := []

def Frame.opening (tag : Tag) : Frame := { name := localName tag.name }

def Frame.add (f : Frame) (child : Element) : Frame := { f with children := child :: f.children }

def Frame.addText (f : Frame) (text : List Char) : Frame := { f with texts := text :: f.texts }

/-- The element that a frame is closed to. -/
def Frame.element (f : Frame) : Element :=
  ⟨String.ofList f.name, f.children.reverse, String.ofList f.texts.reverse.flatten⟩

/-- Why a document is no tree with one root. -/
inductive TreeError where
  | malformed
  | unbalanced
  | unclosed
  | notOneRoot
deriving DecidableEq, Repr

/-- The frames after an event.  The last of them stands for the document. -/
def Frame.step (frames : List Frame) (event : Event) : Except TreeError (List Frame) :=
  match event, frames with
  | .start tag, frames => .ok (opening tag :: frames)
  | .empty tag, top :: rest => .ok (top.add (opening tag).element :: rest)
  | .finish _, top :: parent :: rest => .ok (parent.add top.element :: rest)
  | .finish _, _ => .error .unbalanced
  | .text raw, top :: rest =>
    match unescape? raw with
    | some text => .ok (top.addText text :: rest)
    | none => .error .malformed
  | .cdata content, top :: rest => .ok (top.addText content :: rest)
  | _, frames => .ok frames

/-- The root of the tree of a document. -/
def Element.read (document : List Char) : Except TreeError Element := do
  let reading := Xml.read document
  let frames ← reading.events.foldlM Frame.step [{ name := [] }]
  if reading.complete = false then throw .malformed
  match frames with
  | [document] =>
    match document.children with
    | [root] => return root
    | _ => throw .notOneRoot
  | _ => throw .unclosed

end ReleaseGap.Xml
