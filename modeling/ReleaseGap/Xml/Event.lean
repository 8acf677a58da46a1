/-!
# XML events

A document read as a sequence of events: tags, character data and the rest of the markup.  The
reader checks that every end tag closes the element opened last, that markup is closed, and nothing
else; in particular several elements may stand side by side and text may surround them.  Reading
stops at the first fault and keeps the events before it.
-/

namespace ReleaseGap.Xml

/-- The white space of markup. -/
def isSpace (c : Char) : Bool := c = ' ' || c = '\t' || c = '\n' || c = '\r'

/-- A tag: its name and what follows the name, attributes and all. -/
structure Tag where
  name : List Char
  rest : List Char
deriving DecidableEq, Repr

/-- The tag with this text between its brackets. -/
def Tag.of (content : List Char) : Tag :=
  ⟨content.takeWhile (!isSpace ·), content.dropWhile (!isSpace ·)⟩

/-- What stands before the colon of a name, if it has one. -/
def namePrefix? (name : List Char) : Option (List Char) :=
  if ':' ∈ name then some (name.takeWhile (· ≠ ':')) else none

/-- A name without what stands before its colon. -/
def localName (name : List Char) : List Char :=
  if ':' ∈ name then (name.dropWhile (· ≠ ':')).drop 1 else name

inductive Event where
  | start (tag : Tag)
  /-- A tag that opens and closes an element. -/
  | empty (tag : Tag)
  | finish (name : List Char)
  | text (raw : List Char)
  | cdata (content : List Char)
  | comment
  | instruction
  | doctype
deriving DecidableEq, Repr

/-- Cuts behind the bracket that closes a tag.  Brackets between quotes do not count; `quote` is the
quote that is open. -/
def cutTag? (quote : Option Char) : List Char → Option (List Char × List Char)
  | [] => none
  | c :: r =>
    match quote with
    | some q => (cutTag? (if c = q then none else some q) r).map fun (a, b) => (c :: a, b)
    | none =>
      if c = '>' then some ([], r)
      else
        let quote := if c = '"' ∨ c = '\'' then some c else none
        (cutTag? quote r).map fun (a, b) => (c :: a, b)

/-- Cuts behind the first bracket that `closes` accepts, given what stands before it backwards. -/
def cutMarkup? (closes : List Char → Bool) (seen : List Char) :
    List Char → Option (List Char × List Char)
  | [] => none
  | c :: r =>
    if c = '>' ∧ closes seen then some (seen.reverse, r) else cutMarkup? closes (c :: seen) r

/-- A comment is closed by two hyphens that are not those it was opened with. -/
def closesComment (seen : List Char) : Bool := 4 < seen.length && "--".toList.isPrefixOf seen

def closesCData (seen : List Char) : Bool := "]]".toList.isPrefixOf seen

/-- A document type is closed where its brackets are balanced. -/
def closesDoctype (seen : List Char) : Bool := seen.count '<' == seen.count '>'

def closesInstruction (seen : List Char) : Bool := ['?'].isPrefixOf seen

/-- Cuts markup behind the bracket that closes it.  What closes it depends on how it begins. -/
def cut? (s : List Char) : Option (List Char × List Char) :=
  match s with
  | '!' :: '-' :: _ => cutMarkup? closesComment [] s
  | '!' :: '[' :: _ => cutMarkup? closesCData [] s
  | '!' :: 'D' :: _ => cutMarkup? closesDoctype [] s
  | '!' :: 'd' :: _ => cutMarkup? closesDoctype [] s
  | '!' :: _ => none
  | '?' :: _ => cutMarkup? closesInstruction [] s
  | _ => cutTag? none s

/-- The name in an end tag; white space may follow it. -/
def endName (content : List Char) : List Char :=
  let trimmed := (content.reverse.dropWhile isSpace).reverse
  if trimmed.isEmpty then content else trimmed

/-- The elements open after an end tag: it must close the one opened last. -/
def closing? (opened : List (List Char)) (name : List Char) : Option (List (List Char)) :=
  match opened with
  | top :: rest => if top = name then some rest else none
  | [] => none

/-- The event of markup that begins with an exclamation mark. -/
def bangEvent? (content : List Char) : Option Event :=
  if "!--".toList.isPrefixOf content then some .comment
  else if "![CDATA[".toList.isPrefixOf content then
    some (.cdata ((content.drop 8).take (content.length - 10)))
  else if (content.take 8).map Char.toUpper = "!DOCTYPE".toList ∧ !(content.drop 8).all isSpace then
    some .doctype
  else none

/-- The event of a start tag, or of a tag that is closed at once. -/
def tagEvent (content : List Char) : Event :=
  match content.reverse with
  | '/' :: r => .empty (Tag.of r.reverse)
  | _ => .start (Tag.of content)

/-- The event of markup, and the elements open after it. -/
def event? (opened : List (List Char)) (content : List Char) : Option (Event × List (List Char)) :=
  match content with
  | '!' :: _ => (bangEvent? content).map fun e => (e, opened)
  | '/' :: r => (closing? opened (endName r)).map fun rest => (.finish (endName r), rest)
  | '?' :: r => if r.isEmpty then none else some (.instruction, opened)
  | _ =>
    match tagEvent content with
    | .start tag => some (.start tag, tag.name :: opened)
    | e => some (e, opened)

/-- The events up to the end of a document or up to its first fault. -/
structure Reading where
  events : List Event
  /-- Whether the end was reached. -/
  complete : Bool
deriving DecidableEq, Repr

def Reading.after (r : Reading) (e : Event) : Reading := { r with events := e :: r.events }

theorem length_lt_of_cutTag? {q : Option Char} {s a b : List Char}
    (h : cutTag? q s = some (a, b)) : b.length < s.length := by
  induction s generalizing q a with
  | nil => simp [cutTag?] at h
  | cons c r ih =>
    unfold cutTag? at h
    rw [List.length_cons]
    split at h
    · obtain ⟨⟨a', b'⟩, h, he⟩ := Option.map_eq_some_iff.1 h
      cases he
      exact Nat.lt_succ_of_lt (ih h)
    · split at h
      · cases h; exact Nat.lt_succ_self _
      · obtain ⟨⟨a', b'⟩, h, he⟩ := Option.map_eq_some_iff.1 h
        cases he
        exact Nat.lt_succ_of_lt (ih h)

theorem length_lt_of_cutMarkup? {closes : List Char → Bool} {seen s a b : List Char}
    (h : cutMarkup? closes seen s = some (a, b)) : b.length < s.length := by
  induction s generalizing seen with
  | nil => simp [cutMarkup?] at h
  | cons c r ih =>
    rw [cutMarkup?] at h
    rw [List.length_cons]
    split at h
    · cases h; exact Nat.lt_succ_self _
    · exact Nat.lt_succ_of_lt (ih h)

/-- Markup is not empty: its closing bracket at least is read. -/
theorem length_lt_of_cut? {s a b : List Char} (h : cut? s = some (a, b)) :
    b.length < s.length := by
  simp only [cut?] at h
  split at h
  all_goals
    first
    | exact length_lt_of_cutMarkup? h
    | exact length_lt_of_cutTag? h
    | cases h

/-- Reads on where the elements `opened` are open, innermost first. -/
def readFrom (opened : List (List Char)) (s : List Char) : Reading :=
  match s with
  | [] => ⟨[], true⟩
  | c :: r =>
    if c = '<' then
      match _h : cut? r with
      | none => ⟨[], false⟩
      | some (content, rest) =>
        match event? opened content with
        | none => ⟨[], false⟩
        | some (e, opened) => (readFrom opened rest).after e
    else
      (readFrom opened (r.dropWhile (· ≠ '<'))).after (.text (c :: r.takeWhile (· ≠ '<')))
termination_by s.length
decreasing_by
  · have := length_lt_of_cut? _h
    simp only [List.length_cons]
    omega
  · have := (List.dropWhile_suffix (· ≠ '<') (l := r)).length_le
    simp only [List.length_cons]
    omega

/-- Reads a document.  A byte order mark at its front is no part of it. -/
def read (s : List Char) : Reading :=
  match s with
  | '\uFEFF' :: r => readFrom [] r
  | s => readFrom [] s

/-- Drops the white space at both ends of all character data, and the data that holds nothing else.
-/
def trimTexts (events : List Event) : List Event :=
  events.filterMap fun e =>
    match e with
    | .text raw =>
      let kept := ((raw.dropWhile isSpace).reverse.dropWhile isSpace).reverse
      if kept.isEmpty then none else some (.text kept)
    | e => some e

end ReleaseGap.Xml
