import ReleaseGap.Proofs.Xml.Written

/-!
# Balanced documents

While a document is read, the frames of the tree stand for the elements that are open and for the
document: the reader lets an end tag pass only if it closes the element opened last, so there is
always a frame to close and one to put its element into.  Each event takes up some of the text, so
there are finitely many.
-/
namespace ReleaseGap.Xml

/-- The elements open after an event, innermost first.  An end tag has to close the innermost. -/
def Event.open? (opened : List (List Char)) : Event → Option (List (List Char))
  | .start tag => some (tag.name :: opened)
  | .finish name => closing? opened name
  | _ => some opened

theorem open?_of_bangEvent? {content : List Char} {e : Event} (h : bangEvent? content = some e)
    (opened : List (List Char)) : e.open? opened = some opened := by
  simp only [bangEvent?] at h
  split at h
  · cases h; rfl
  · split at h
    · cases h; rfl
    · split at h
      · cases h; rfl
      · cases h

theorem exists_tagEvent_eq (content : List Char) :
    ∃ tag, tagEvent content = .start tag ∨ tagEvent content = .empty tag := by
  rw [tagEvent]
  split
  · exact ⟨_, .inr rfl⟩
  · exact ⟨_, .inl rfl⟩

theorem open?_of_event? {opened opened' : List (List Char)} {content : List Char} {e : Event}
    (h : event? opened content = some (e, opened')) : e.open? opened = some opened' := by
  simp only [event?] at h
  split at h
  case h_1 =>
    obtain ⟨e', hbang, heq⟩ := Option.map_eq_some_iff.1 h
    cases heq
    exact open?_of_bangEvent? hbang opened
  case h_2 =>
    obtain ⟨rest, hclosing, heq⟩ := Option.map_eq_some_iff.1 h
    cases heq
    exact hclosing
  case h_3 =>
    split at h
    · cases h
    · cases h; rfl
  case h_4 =>
    obtain ⟨tag, htag | htag⟩ := exists_tagEvent_eq content <;>
      (rw [htag] at h; cases h; rfl)

/-- A step of the reader takes an event off the front of the text, and goes on with the elements
that the event leaves open. -/
theorem exists_of_events_eq_cons {opened : List (List Char)} {s : List Char} {e : Event}
    {more : List Event} (h : (readFrom opened s).events = e :: more) :
    ∃ opened' rest, e.open? opened = some opened' ∧
      readFrom opened s = (readFrom opened' rest).after e := by
  revert h
  fun_cases readFrom opened s with
  | case1 => exact fun h => by cases h
  | case2 => exact fun h => by cases h
  | case3 => exact fun h => by cases h
  | case4 r content rest _ e' opened' hevent =>
    intro h
    obtain ⟨rfl, -⟩ := List.cons.inj h
    exact ⟨opened', rest, open?_of_event? hevent, rfl⟩
  | case5 c r _ =>
    intro h
    obtain ⟨rfl, -⟩ := List.cons.inj h
    exact ⟨opened, r.dropWhile (· ≠ '<'), rfl, rfl⟩

/-- Each event takes up a character at least. -/
theorem length_events_readFrom_le (opened : List (List Char)) (s : List Char) :
    (readFrom opened s).events.length ≤ s.length := by
  fun_induction readFrom opened s with
  | case1 => exact Nat.le_refl _
  | case2 => exact Nat.zero_le _
  | case3 => exact Nat.zero_le _
  | case4 opened r content rest hcut e opened' _ ih =>
    have hrest := length_lt_of_cut? hcut
    simp only [Reading.after, List.length_cons]
    omega
  | case5 opened c r _ ih =>
    have hrest := (List.dropWhile_suffix (· ≠ '<') (l := r)).length_le
    simp only [Reading.after, List.length_cons]
    omega

/-- Behind some of its events the reader goes on with the elements that they leave open. -/
theorem exists_readFrom_behind {opened : List (List Char)} {s : List Char}
    {seen more : List Event} (h : (readFrom opened s).events = seen ++ more) :
    ∃ opened' rest, seen.foldlM Event.open? opened = some opened' ∧
      readFrom opened' rest = ⟨more, (readFrom opened s).complete⟩ := by
  induction seen generalizing opened s with
  | nil => exact ⟨opened, s, rfl, by rw [← List.nil_append more, ← h]⟩
  | cons e seen ih =>
    obtain ⟨inner, rest, hopen, hread⟩ := exists_of_events_eq_cons h
    rw [hread] at h ⊢
    obtain ⟨opened', rest', hopened', hrest'⟩ := ih (List.cons.inj h).2
    refine ⟨opened', rest', ?_, hrest'⟩
    rw [List.foldlM_cons, hopen]
    exact hopened'

namespace Frame

/-- There is a frame for each open element, innermost first, and behind them the document's. -/
def StandFor (frames : List Frame) (opened : List (List Char)) : Prop :=
  frames.map (·.name) = opened.map localName ++ [[]]

variable {frames : List Frame} {opened opened' : List (List Char)} {e : Event}

theorem StandFor.exists_eq_cons (h : StandFor frames opened) :
    ∃ top rest, frames = top :: rest := by
  cases frames with
  | nil => simp [StandFor] at h
  | cons top rest => exact ⟨top, rest, rfl⟩

/-- An open element has a frame, and there is a frame for what it is in. -/
theorem StandFor.exists_eq_cons_cons {name : List Char} (h : StandFor frames (name :: opened)) :
    ∃ top parent rest, frames = top :: parent :: rest ∧ StandFor (parent :: rest) opened := by
  obtain ⟨top, rest, rfl⟩ := h.exists_eq_cons
  have hrest : StandFor rest opened := (List.cons.inj h).2
  obtain ⟨parent, rest, rfl⟩ := hrest.exists_eq_cons
  exact ⟨top, parent, rest, rfl, hrest⟩

/-- What an event does to the frames: they stand for the open elements again, unless it is a text
that cannot be read. -/
theorem StandFor.step (h : StandFor frames opened) (he : e.open? opened = some opened') :
    (∃ frames', Frame.step frames e = .ok frames' ∧ StandFor frames' opened') ∨
      Frame.step frames e = .error .malformed ∧ ∃ raw, e = .text raw ∧ unescape? raw = none := by
  cases e with
  | start tag =>
    cases he
    exact .inl ⟨opening tag :: frames, rfl, congrArg (localName tag.name :: ·) h⟩
  | empty tag =>
    cases he
    obtain ⟨top, rest, rfl⟩ := h.exists_eq_cons
    exact .inl ⟨top.add (opening tag).element :: rest, rfl, h⟩
  | finish name =>
    obtain ⟨rest, rfl⟩ : ∃ rest, opened = name :: rest := by
      cases opened with
      | nil => cases he
      | cons top rest =>
        simp only [Event.open?, closing?] at he
        split at he
        · rename_i htop
          exact ⟨rest, htop ▸ rfl⟩
        · cases he
    obtain rfl : rest = opened' := by simpa [Event.open?, closing?] using he
    obtain ⟨top, parent, above, rfl, habove⟩ := h.exists_eq_cons_cons
    exact .inl ⟨parent.add top.element :: above, rfl, habove⟩
  | text raw =>
    cases he
    obtain ⟨top, rest, rfl⟩ := h.exists_eq_cons
    cases htext : unescape? raw with
    | none => exact .inr ⟨by simp [Frame.step, htext], raw, rfl, htext⟩
    | some text => exact .inl ⟨top.addText text :: rest, by simp [Frame.step, htext], h⟩
  | cdata content =>
    cases he
    obtain ⟨top, rest, rfl⟩ := h.exists_eq_cons
    exact .inl ⟨top.addText content :: rest, rfl, h⟩
  | comment => cases he; exact .inl ⟨frames, rfl, h⟩
  | instruction => cases he; exact .inl ⟨frames, rfl, h⟩
  | doctype => cases he; exact .inl ⟨frames, rfl, h⟩

theorem StandFor.run {seen : List Event} (h : StandFor frames opened)
    (hseen : seen.foldlM Event.open? opened = some opened') :
    (∃ frames', seen.foldlM Frame.step frames = .ok frames' ∧ StandFor frames' opened') ∨
      seen.foldlM Frame.step frames = .error .malformed ∧
        ∃ raw, .text raw ∈ seen ∧ unescape? raw = none := by
  induction seen generalizing frames opened with
  | nil =>
    cases hseen
    exact .inl ⟨frames, rfl, h⟩
  | cons e seen ih =>
    rw [List.foldlM_cons] at hseen ⊢
    obtain ⟨inner, he, hseen⟩ := Option.bind_eq_some_iff.1 hseen
    rcases h.step he with ⟨next, hstep, hnext⟩ | ⟨hstep, raw, rfl, hraw⟩
    · rw [hstep]
      rcases ih hnext hseen with hok | ⟨herror, raw, hmem, hraw⟩
      · exact .inl hok
      · exact .inr ⟨herror, raw, List.mem_cons_of_mem e hmem, hraw⟩
    · rw [hstep]
      exact .inr ⟨rfl, raw, List.mem_cons_self, hraw⟩

theorem root_eq_ok_iff {root : Element} : Frame.root frames = .ok root ↔
    ∃ document, frames = [document] ∧ document.children = [root] := by
  fun_cases Frame.root frames with
  | case1 document root' hchildren => simp [hchildren]
  | case2 document hchildren => simpa using hchildren root
  | case3 frames hframes => simpa using fun document h => absurd h (hframes document)

theorem root_ne_error_unbalanced (frames : List Frame) :
    Frame.root frames ≠ .error .unbalanced := by
  fun_cases Frame.root frames <;> exact fun h => by cases h

end Frame

theorem exists_read_eq_readFrom (document : List Char) :
    ∃ s, Xml.read document = readFrom [] s ∧ s.length ≤ document.length := by
  fun_cases Xml.read document with
  | case1 s => exact ⟨s, rfl, Nat.le_succ _⟩
  | case2 => exact ⟨document, rfl, Nat.le_refl _⟩

namespace Element

variable {document : List Char}

theorem read_of_error {e : TreeError}
    (h : (Xml.read document).events.foldlM Frame.step [{ name := [] }] = .error e) :
    Element.read document = .error e := by
  rw [Element.read, h]
  rfl

theorem read_of_frames {frames : List Frame}
    (h : (Xml.read document).events.foldlM Frame.step [{ name := [] }] = .ok frames) :
    Element.read document =
      if (Xml.read document).complete = true then Frame.root frames else .error .malformed := by
  rw [Element.read_eq, Frame.follow, h]
  cases (Xml.read document).complete <;> rfl

theorem read_eq_ok_iff {root : Element} :
    Element.read document = .ok root ↔ (Xml.read document).complete = true ∧
      ∃ frame, (Xml.read document).events.foldlM Frame.step [{ name := [] }] = .ok [frame] ∧
        frame.children = [root] := by
  cases h : (Xml.read document).events.foldlM Frame.step [{ name := [] }] with
  | error e => simp [read_of_error h]
  | ok frames =>
    rw [read_of_frames h]
    simp only [Except.ok.injEq, ← Frame.root_eq_ok_iff]
    by_cases hcomplete : (Xml.read document).complete = true <;> simp [hcomplete]

end Element

/-- Behind some of the events of a text the frames stand for the elements that they leave open,
unless there is a text among them that cannot be read. -/
theorem exists_frames_behind {document : List Char} {seen more : List Event}
    (h : (Xml.read document).events = seen ++ more) :
    ∃ opened rest, seen.foldlM Event.open? [] = some opened ∧
      readFrom opened rest = ⟨more, (Xml.read document).complete⟩ ∧
      ((∃ frames, seen.foldlM Frame.step [{ name := [] }] = .ok frames ∧
          Frame.StandFor frames opened) ∨
        seen.foldlM Frame.step [{ name := [] }] = .error .malformed ∧
          ∃ raw, .text raw ∈ seen ∧ unescape? raw = none) := by
  obtain ⟨s, hs, -⟩ := exists_read_eq_readFrom document
  rw [hs] at h ⊢
  obtain ⟨opened, rest, hopened, hrest⟩ := exists_readFrom_behind h
  have hstart : Frame.StandFor [{ name := [] }] [] := rfl
  exact ⟨opened, rest, hopened, hrest, hstart.run hopened⟩

/-- However a text is made, it is read with finitely many events, and at each of them there is one
frame for each open element and one for the document, as long as all texts so far could be read.  So
there is always a frame to close, and a tree comes out only if all elements are closed and the
document has one of them. -/
theorem read_stays_balanced (document : List Char) :
    (Xml.read document).events.length ≤ document.length ∧
    (∀ seen more, (Xml.read document).events = seen ++ more →
      ∃ opened rest, seen.foldlM Event.open? [] = some opened ∧
        readFrom opened rest = ⟨more, (Xml.read document).complete⟩ ∧
        ((∃ frames, seen.foldlM Frame.step [{ name := [] }] = .ok frames ∧
            frames.length = opened.length + 1 ∧
            frames.map (·.name) = opened.map localName ++ [[]]) ∨
          seen.foldlM Frame.step [{ name := [] }] = .error .malformed ∧
            ∃ raw, .text raw ∈ seen ∧ unescape? raw = none)) ∧
    Element.read document ≠ .error .unbalanced ∧
    ∀ root, Element.read document = .ok root ↔
      (Xml.read document).complete = true ∧
        (Xml.read document).events.foldlM Event.open? [] = some [] ∧
        ∃ frame, (Xml.read document).events.foldlM Frame.step [{ name := [] }] = .ok [frame] ∧
          frame.children = [root] := by
  obtain ⟨opened, -, hopened, -, hrun⟩ := exists_frames_behind (List.append_nil _).symm
  refine ⟨?finite, fun seen more hsplit => ?behind, ?balanced, fun root => ?accepted⟩
  case finite =>
    obtain ⟨s, hs, hlength⟩ := exists_read_eq_readFrom document
    rw [hs]
    exact (length_events_readFrom_le [] s).trans hlength
  case behind =>
    obtain ⟨opened, rest, hopened, hrest, hrun⟩ := exists_frames_behind hsplit
    refine ⟨opened, rest, hopened, hrest, hrun.imp_left ?_⟩
    rintro ⟨frames, hframes, hstand⟩
    exact ⟨frames, hframes, by simpa using congrArg List.length hstand, hstand⟩
  case balanced =>
    rcases hrun with ⟨frames, hframes, -⟩ | ⟨herror, -⟩
    · rw [Element.read_of_frames hframes]
      split
      · exact Frame.root_ne_error_unbalanced frames
      · exact fun h => by cases h
    · rw [Element.read_of_error herror]
      exact fun h => by cases h
  case accepted =>
    rw [Element.read_eq_ok_iff]
    refine and_congr_right fun _ => ⟨?_, And.right⟩
    rintro ⟨frame, hframe, hchildren⟩
    refine ⟨?_, frame, hframe, hchildren⟩
    rcases hrun with ⟨frames, hframes, hstand⟩ | ⟨herror, -⟩
    · cases hframe.symm.trans hframes
      have hnone : opened = [] := by simpa using congrArg List.length hstand
      rw [hopened, hnone]
    · cases hframe.symm.trans herror

/-- Where an end tag closes an element that is not the innermost, reading ends with the elements
that were open before it. -/
theorem read_stays_balanced_sample :
    let document := "<a>x<b></a>".toList
    let seen : List Event := [.start ⟨['a'], []⟩, .text ['x'], .start ⟨['b'], []⟩]
    (Xml.read document).events = seen ++ [] ∧ (Xml.read document).complete = false ∧
    ∃ frames, seen.foldlM Frame.step [{ name := [] }] = .ok frames ∧
      frames.map (·.name) = [['b'], ['a'], []] := by
  intro document seen
  have hevents : (Xml.read document).events = seen ++ [] := by decide +kernel
  obtain ⟨-, hbehind, -⟩ := read_stays_balanced document
  obtain ⟨opened, -, hopened, -, hrun⟩ := hbehind seen [] hevents
  cases hopened
  refine ⟨hevents, by decide +kernel, ?_⟩
  rcases hrun with ⟨frames, hframes, -, hnames⟩ | ⟨-, raw, hmem, hraw⟩
  · exact ⟨frames, hframes, hnames⟩
  · obtain rfl : raw = ['x'] := by simpa [seen] using hmem
    exact absurd hraw (by decide)

end ReleaseGap.Xml
