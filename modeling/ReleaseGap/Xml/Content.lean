import ReleaseGap.Xml.Attribute
import ReleaseGap.Xml.Entity

/-!
# Content

A document as the content of its root, for reading records out of it.  Character data that follows
each other is one text, whose white space at both ends does not count; texts of white space alone
are none. What stands behind the root is not looked at, faulty or not.
-/

namespace ReleaseGap.Xml

inductive Content where
  | element (tag : Tag) (content : List Content)
  /-- A text, or `none` if it refers to characters that there are not. -/
  | text (text : Option (List Char))

/-- A piece of character data. -/
inductive Piece where
  | raw (s : List Char)
  | verbatim (s : List Char)
deriving DecidableEq, Repr

def Piece.isBlank : Piece → Bool
  | .raw s => s.all isSpace
  | .verbatim _ => false

/-- Drops white space at the front or at the end of a raw piece. -/
def Piece.trimStart : Piece → Piece
  | .raw s => .raw (s.dropWhile isSpace)
  | p => p

def Piece.trimEnd : Piece → Piece
  | .raw s => .raw (s.reverse.dropWhile isSpace).reverse
  | p => p

def Piece.text? : Piece → Option (List Char)
  | .raw s => unescape? s
  | .verbatim s => some s

/-- Applies a function to the last member of a list. -/
def mapLast {α : Type} (f : α → α) : List α → List α
  | [] => []
  | [a] => [f a]
  | a :: rest => a :: mapLast f rest

/-- The text that pieces make, if they make one. -/
def Content.ofPieces (pieces : List Piece) : Option Content :=
  match pieces.dropWhile Piece.isBlank with
  | [] => none
  | first :: rest =>
    let trimmed := mapLast Piece.trimEnd (first.trimStart :: rest)
    some (.text ((trimmed.mapM Piece.text?).map List.flatten))

/-- An element that is not closed yet.  Its content and the pieces of its last text are kept
backwards. -/
structure OpenElement where
  tag : Tag
  content : List Content := []
  pieces : List Piece := []

namespace OpenElement

/-- Closes the text that the element ends with. -/
def closeText (e : OpenElement) : OpenElement :=
  { e with content := (Content.ofPieces e.pieces.reverse).toList ++ e.content, pieces := [] }

def addPiece (e : OpenElement) (p : Piece) : OpenElement := { e with pieces := p :: e.pieces }

def addContent (e : OpenElement) (c : Content) : OpenElement :=
  let e := e.closeText
  { e with content := c :: e.content }

def close (e : OpenElement) : Content :=
  let e := e.closeText
  .element e.tag e.content.reverse

end OpenElement

/-- The content of the element that is outermost of those open. -/
def Content.readInside (inner : OpenElement) (outer : List OpenElement) :
    List Event → Option Content
  | [] => none
  | .start tag :: rest => readInside { tag } (inner.closeText :: outer) rest
  | .empty tag :: rest => readInside (inner.addContent (.element tag [])) outer rest
  | .finish _ :: rest =>
    match outer with
    | [] => some inner.close
    | parent :: outer => readInside (parent.addContent inner.close) outer rest
  | .text s :: rest => readInside (inner.addPiece (.raw s)) outer rest
  | .cdata s :: rest => readInside (inner.addPiece (.verbatim s)) outer rest
  | .doctype :: rest => readInside inner.closeText outer rest
  | .comment :: rest => readInside inner outer rest
  | .instruction :: rest => readInside inner outer rest

/-- The root among the events of a document; only white space may stand before it. -/
def Content.root? : List Event → Option Content
  | [] => none
  | .start tag :: rest => readInside { tag } [] rest
  | .empty tag :: _ => some (.element tag [])
  | .text s :: rest => if s.all isSpace then root? rest else none
  | .cdata _ :: _ => none
  | _ :: rest => root? rest

/-- The root of a document. -/
def Content.read (document : List Char) : Option Content := root? (Xml.read document).events

end ReleaseGap.Xml
