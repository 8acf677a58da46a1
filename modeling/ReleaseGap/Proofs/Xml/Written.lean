import Mathlib.Data.List.TakeWhile
import Mathlib.Tactic.Common
import ReleaseGap.Xml.Element

/-!
# Written elements read back

Elements written with plain names and escaped text are read as the elements they were written from,
wherever in a document they stand.  `Spells` says so of a text; it holds of tags around texts that
spell, of escaped text between tags, and of texts one after the other.
-/
namespace ReleaseGap.Xml

/-- The characters of plain names, none of which means anything to the reader of markup. -/
def isNameChar (c : Char) : Bool := c.isAlphanum || c == '.'

/-- A name without a colon, a blank or any other mark. -/
def IsPlainName (name : List Char) : Prop := name ≠ [] ∧ name.all isNameChar = true

instance (name : List Char) : Decidable (IsPlainName name) := inferInstanceAs (Decidable (_ ∧ _))

/-- The frames that the events of a reading lead to. -/
def Frame.follow (frames : List Frame) (reading : Reading) : Except TreeError (List Frame) := do
  let frames ← reading.events.foldlM Frame.step frames
  if reading.complete = false then throw .malformed
  return frames

/-- The root of the frames at the end of a document. -/
def Frame.root : List Frame → Except TreeError Element
  | [document] =>
    match document.children with
    | [root] => .ok root
    | _ => .error .notOneRoot
  | _ => .error .unclosed

/-- Reading a document is following its events and then looking for the root. -/
theorem Element.read_eq (document : List Char) :
    Element.read document = Frame.follow [{ name := [] }] (Xml.read document) >>= Frame.root := by
  rw [Element.read, Frame.follow]
  simp only [bind_assoc]
  congr 1
  funext frames
  by_cases h : (Xml.read document).complete = false
  · simp only [h, if_true]
    rfl
  · simp only [h]
    rfl

theorem Frame.follow_after (frames : List Frame) (reading : Reading) (e : Event) :
    Frame.follow frames (reading.after e)
      = Frame.step frames e >>= fun frames => Frame.follow frames reading := by
  simp only [Frame.follow, Reading.after, List.foldlM_cons, bind_assoc]
  rfl

theorem readFrom_markup {opened opened' : List (List Char)} {s content rest : List Char}
    {e : Event} (hcut : cut? s = some (content, rest))
    (hevent : event? opened content = some (e, opened')) :
    readFrom opened ('<' :: s) = (readFrom opened' rest).after e := by
  rw [readFrom]
  simp only [if_true]
  split
  · rename_i h
    rw [hcut] at h
    cases h
  · rename_i content' rest' h
    rw [hcut] at h
    cases h
    rw [hevent]

/-- Character data is read up to the next tag. -/
theorem readFrom_text {opened : List (List Char)} {s : List Char} (hs : s ≠ [])
    (hlt : '<' ∉ s) (rest : List Char) :
    readFrom opened (s ++ '<' :: rest) = (readFrom opened ('<' :: rest)).after (.text s) := by
  obtain ⟨c, r, rfl⟩ := List.exists_cons_of_ne_nil hs
  have hc : c ≠ '<' := fun h => hlt (h ▸ List.mem_cons_self)
  have hr : ∀ d ∈ r, (decide (d ≠ '<')) = true := by
    intro d hd
    have : d ≠ '<' := fun h => hlt (h ▸ List.mem_cons_of_mem _ hd)
    simpa using this
  have htake : (r ++ '<' :: rest).takeWhile (· ≠ '<') = r := by
    rw [List.takeWhile_append_of_pos hr]
    simp
  have hdrop : (r ++ '<' :: rest).dropWhile (· ≠ '<') = '<' :: rest := by
    rw [List.dropWhile_append_of_pos hr]
    simp
  rw [List.cons_append, readFrom]
  simp only [hc, if_false, htake, hdrop]

namespace IsPlainName

variable {name : List Char} (h : IsPlainName name)
include h

/-- A plain name holds none of the characters that mean something to the reader. -/
theorem ne_of_mem {c d : Char} (hc : c ∈ name) (hd : isNameChar d = false) : c ≠ d := by
  rintro rfl
  rw [List.all_eq_true.1 h.2 c hc] at hd
  cases hd

theorem isSpace_of_mem {c : Char} (hc : c ∈ name) : isSpace c = false := by
  simp only [isSpace, Bool.or_eq_false_iff, decide_eq_false_iff_not]
  refine ⟨⟨⟨?_, ?_⟩, ?_⟩, ?_⟩ <;> exact h.ne_of_mem hc (by decide)

theorem localName : localName name = name := by
  have hcolon : ':' ∉ name := fun hc => h.ne_of_mem hc (by decide) rfl
  simp [Xml.localName, hcolon]

theorem tag_of : Tag.of name = ⟨name, []⟩ := by
  have hspace : ∀ c ∈ name, (!isSpace c) = true := by
    intro c hc
    rw [h.isSpace_of_mem hc]
    rfl
  have htake : name.takeWhile (!isSpace ·) = name := List.takeWhile_eq_self_iff.2 hspace
  have hdrop : name.dropWhile (!isSpace ·) = [] := List.dropWhile_eq_nil_iff.2 hspace
  rw [Tag.of, htake, hdrop]

theorem cutTag?_append (tail rest : List Char) (q : List Char)
    (htail : cutTag? none tail = some (q, rest)) :
    cutTag? none (name ++ tail) = some (name ++ q, rest) := by
  have key : ∀ s : List Char, (∀ c ∈ s, c ∈ name) →
      cutTag? none (s ++ tail) = some (s ++ q, rest) := by
    intro s
    induction s with
    | nil => intro _; exact htail
    | cons c s ih =>
      intro hs
      have hc := hs c List.mem_cons_self
      have hclose : c ≠ '>' := h.ne_of_mem hc (by decide)
      have hquote : ¬(c = '"' ∨ c = '\'') := by
        rintro (hq | hq)
        · exact h.ne_of_mem hc (by decide) hq
        · exact h.ne_of_mem hc (by decide) hq
      simp [cutTag?, hclose, hquote, ih fun d hd => hs d (List.mem_cons_of_mem _ hd)]
  exact key name fun _ hc => hc

/-- The front of a plain name opens no markup but a tag. -/
theorem cut?_append (tail : List Char) : cut? (name ++ tail) = cutTag? none (name ++ tail) := by
  obtain ⟨c, r, rfl⟩ := List.exists_cons_of_ne_nil h.1
  have hbang : c ≠ '!' := h.ne_of_mem List.mem_cons_self (by decide)
  have hask : c ≠ '?' := h.ne_of_mem List.mem_cons_self (by decide)
  rw [List.cons_append]
  simp only [cut?]
  split <;> simp_all

theorem exists_concat : ∃ r c, name = r ++ [c] ∧ c ∈ name := by
  obtain hnil | ⟨r, c, hr⟩ := List.eq_nil_or_concat name
  · exact absurd hnil h.1
  · exact ⟨r, c, by simpa using hr, by simp [hr]⟩

theorem endName : endName name = name := by
  obtain ⟨r, c, rfl, hc⟩ := h.exists_concat
  have hspace : isSpace c = false := h.isSpace_of_mem hc
  simp [Xml.endName, hspace]

theorem tagEvent : tagEvent name = .start ⟨name, []⟩ := by
  obtain ⟨r, c, hr, hc⟩ := h.exists_concat
  have hslash : c ≠ '/' := h.ne_of_mem hc (by decide)
  rw [Xml.tagEvent]
  split
  · rename_i heq
    rw [hr, List.reverse_append] at heq
    exact absurd (List.cons.inj heq).1 hslash
  · rw [h.tag_of]

/-- Markup that begins with a plain name is a tag. -/
theorem event?_append (opened : List (List Char)) (tail : List Char) :
    event? opened (name ++ tail) = match Xml.tagEvent (name ++ tail) with
      | .start tag => some (.start tag, tag.name :: opened)
      | e => some (e, opened) := by
  obtain ⟨c, r, rfl⟩ := List.exists_cons_of_ne_nil h.1
  have hbang : c ≠ '!' := h.ne_of_mem List.mem_cons_self (by decide)
  have hslash : c ≠ '/' := h.ne_of_mem List.mem_cons_self (by decide)
  have hask : c ≠ '?' := h.ne_of_mem List.mem_cons_self (by decide)
  rw [List.cons_append]
  simp only [event?]
  split
  · simp_all
  · simp_all
  · simp_all
  · rfl

theorem readFrom_start (opened : List (List Char)) (rest : List Char) :
    readFrom opened ('<' :: (name ++ '>' :: rest))
      = (readFrom (name :: opened) rest).after (.start ⟨name, []⟩) := by
  have hcut : cut? (name ++ '>' :: rest) = some (name, rest) := by
    rw [h.cut?_append, h.cutTag?_append ('>' :: rest) rest [] rfl, List.append_nil]
  have hevent : event? opened name = some (.start ⟨name, []⟩, name :: opened) := by
    have happend := h.event?_append opened []
    rw [List.append_nil, h.tagEvent] at happend
    exact happend
  exact readFrom_markup hcut hevent

theorem readFrom_finish (opened : List (List Char)) (rest : List Char) :
    readFrom (name :: opened) ('<' :: '/' :: (name ++ '>' :: rest))
      = (readFrom opened rest).after (.finish name) := by
  have hcut : cut? ('/' :: (name ++ '>' :: rest)) = some ('/' :: name, rest) := by
    change cutTag? none ('/' :: (name ++ '>' :: rest)) = _
    simp [cutTag?, h.cutTag?_append ('>' :: rest) rest [] rfl]
  have hevent : event? (name :: opened) ('/' :: name) = some (.finish name, opened) := by
    simp [event?, h.endName, closing?]
  exact readFrom_markup hcut hevent

theorem readFrom_empty (opened : List (List Char)) (rest : List Char) :
    readFrom opened ('<' :: (name ++ '/' :: '>' :: rest))
      = (readFrom opened rest).after (.empty ⟨name, []⟩) := by
  have hcut : cut? (name ++ '/' :: '>' :: rest) = some (name ++ ['/'], rest) := by
    rw [h.cut?_append, h.cutTag?_append ('/' :: '>' :: rest) rest ['/'] rfl]
  have hevent : event? opened (name ++ ['/']) = some (.empty ⟨name, []⟩, opened) := by
    rw [h.event?_append]
    simp [Xml.tagEvent, h.tag_of]
  exact readFrom_markup hcut hevent

end IsPlainName

/-- Markup is cut no earlier than at its first closing bracket. -/
theorem cutMarkup?_append (closes : List Char → Bool) {s : List Char} (hs : '>' ∉ s)
    (seen rest : List Char) :
    cutMarkup? closes seen (s ++ rest) = cutMarkup? closes (s.reverse ++ seen) rest := by
  induction s generalizing seen with
  | nil => rfl
  | cons c s ih =>
    have hc : c ≠ '>' := fun h => hs (h ▸ List.mem_cons_self)
    have hrest : '>' ∉ s := fun h => hs (List.mem_cons_of_mem _ h)
    rw [List.cons_append, cutMarkup?]
    simp only [hc, false_and, if_false]
    rw [ih hrest, List.reverse_cons, List.append_assoc, List.singleton_append]

/-- An element as it is written: its name in two tags with its content between. -/
def tagged (name content : List Char) : List Char :=
  '<' :: (name ++ '>' :: (content ++ '<' :: '/' :: (name ++ ['>'])))

/-- A text adds some elements to the one that is open and does nothing else, wherever it stands. -/
def Spells (s : List Char) (children : List Element) : Prop :=
  ∀ opened top frames rest,
    Frame.follow (top :: frames) (readFrom opened (s ++ rest))
      = Frame.follow (children.foldl Frame.add top :: frames) (readFrom opened rest)

theorem Frame.element_foldl_add (f : Frame) (children : List Element) :
    (children.foldl Frame.add f).element
      = ⟨String.ofList f.name, f.children.reverse ++ children,
          String.ofList f.texts.reverse.flatten⟩ := by
  induction children generalizing f with
  | nil => simp [Frame.element]
  | cons child children ih => simp [ih, Frame.add]

namespace Spells

variable {name s s' : List Char} {children children' : List Element}

theorem nil : Spells [] [] := fun _ _ _ _ => rfl

theorem append (h : Spells s children) (h' : Spells s' children') :
    Spells (s ++ s') (children ++ children') := by
  intro opened top frames rest
  rw [List.append_assoc, h, h', List.foldl_append]

/-- Tags around a text that spells the children of an element spell the element. -/
theorem tagged (hname : IsPlainName name) (h : Spells s children) :
    Spells (tagged name s) [⟨String.ofList name, children, ""⟩] := by
  intro opened top frames rest
  have htext : Xml.tagged name s ++ rest
      = '<' :: (name ++ '>' :: (s ++ '<' :: '/' :: (name ++ '>' :: rest))) := by
    simp [Xml.tagged]
  rw [htext, hname.readFrom_start, Frame.follow_after]
  change Frame.follow (Frame.opening ⟨name, []⟩ :: top :: frames) _ = _
  rw [h, hname.readFrom_finish, Frame.follow_after]
  change Frame.follow (top.add (children.foldl Frame.add _).element :: frames) _ = _
  rw [Frame.element_foldl_add]
  simp [Frame.opening, hname.localName]

/-- Tags around escaped text spell an element that holds the text. -/
theorem text (hname : IsPlainName name) (t : List Char) :
    Spells (Xml.tagged name (escape t)) [⟨String.ofList name, [], String.ofList t⟩] := by
  intro opened top frames rest
  by_cases ht : t = []
  · subst ht
    exact tagged hname nil opened top frames rest
  · have hne : escape t ≠ [] := by
      intro hnil
      have hread := unescape?_escape t
      rw [hnil] at hread
      exact ht (Option.some.inj hread).symm
    have htext : Xml.tagged name (escape t) ++ rest
        = '<' :: (name ++ '>' :: (escape t ++ '<' :: '/' :: (name ++ '>' :: rest))) := by
      simp [Xml.tagged]
    rw [htext, hname.readFrom_start, Frame.follow_after]
    change Frame.follow (Frame.opening ⟨name, []⟩ :: top :: frames) _ = _
    rw [readFrom_text hne (lt_notMem_escape t), Frame.follow_after]
    simp only [Frame.step, unescape?_escape]
    change Frame.follow ((Frame.opening ⟨name, []⟩).addText t :: top :: frames) _ = _
    rw [hname.readFrom_finish, Frame.follow_after]
    change Frame.follow (top.add ((Frame.opening ⟨name, []⟩).addText t).element :: frames) _ = _
    simp [Frame.opening, Frame.addText, Frame.element, hname.localName]

/-- A tag that is closed at once spells an element without content. -/
theorem closed (hname : IsPlainName name) :
    Spells ('<' :: (name ++ ['/', '>'])) [⟨String.ofList name, [], ""⟩] := by
  intro opened top frames rest
  have htext : '<' :: (name ++ ['/', '>']) ++ rest = '<' :: (name ++ '/' :: '>' :: rest) := by
    simp
  rw [htext, hname.readFrom_empty, Frame.follow_after]
  change Frame.follow (top.add (Frame.opening ⟨name, []⟩).element :: frames) _ = _
  simp [Frame.opening, Frame.element, hname.localName]

/-- An instruction, as that a document begins with, spells nothing. -/
theorem instruction {body : List Char} (hbody : '>' ∉ body) :
    Spells ('<' :: '?' :: (body ++ ['?', '>'])) [] := by
  intro opened top frames rest
  have htext : '<' :: '?' :: (body ++ ['?', '>']) ++ rest
      = '<' :: '?' :: (body ++ '?' :: '>' :: rest) := by
    simp
  have hcut : cut? ('?' :: (body ++ '?' :: '>' :: rest)) = some ('?' :: (body ++ ['?']), rest) := by
    change cutMarkup? closesInstruction [] ('?' :: body ++ '?' :: '>' :: rest) = _
    rw [cutMarkup?_append closesInstruction (by simpa using hbody)]
    simp [cutMarkup?, closesInstruction]
  have hevent : event? opened ('?' :: (body ++ ['?'])) = some (.instruction, opened) := by
    simp [event?]
  rw [htext, readFrom_markup hcut hevent, Frame.follow_after]
  rfl

end Spells

theorem readFrom_nil (opened : List (List Char)) : readFrom opened [] = ⟨[], true⟩ := by
  rw [readFrom]

/-- A document that spells one element is read as that element. -/
theorem Element.read_of_spells {s : List Char} {root : Element} (h : Spells s [root])
    (hs : s.head? = some '<') : Element.read s = .ok root := by
  have hread : Xml.read s = readFrom [] s := by
    simp only [Xml.read]
    split
    · cases hs
    · rfl
  have hfollow := h [] { name := [] } [] []
  rw [List.append_nil, readFrom_nil] at hfollow
  rw [Element.read_eq, hread, hfollow]
  rfl

end ReleaseGap.Xml
