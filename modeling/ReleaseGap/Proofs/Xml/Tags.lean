import ReleaseGap.Proofs.Xml.Document
import ReleaseGap.Proofs.Xml.Written

/-!
# Tags read back

The reader of markup finds the end of each written tag, its name and its attributes, and so reads
the event that the tag stands for.  What stands around the root is read as events that say nothing.
-/
namespace ReleaseGap.Xml

open Text (dropWhile_run takeWhile_run)

/-! ### Names -/

namespace QName

variable {name : QName}

theorem isSimpleName_iff {s : List Char} :
    isSimpleName s = true ↔ s ≠ [] ∧ ∀ c ∈ s, isTagMark c = false ∧ c ≠ ':' := by
  simp [isSimpleName]

theorem isSimpleName_base (h : name.isWellFormed = true) : isSimpleName name.base = true :=
  (Bool.and_eq_true_iff.1 h).2

theorem isSimpleName_qualifier (h : name.isWellFormed = true) {qualifier : List Char}
    (hq : name.qualifier = some qualifier) : isSimpleName qualifier = true := by
  have hall := (Bool.and_eq_true_iff.1 h).1
  rwa [hq] at hall

theorem colon_notMem_of_isSimpleName {s : List Char} (h : isSimpleName s = true) : ':' ∉ s :=
  fun hc => ((isSimpleName_iff.1 h).2 ':' hc).2 rfl

theorem isTagMark_of_mem (h : name.isWellFormed = true) {c : Char} (hc : c ∈ name.written) :
    isTagMark c = false := by
  have hbase := (isSimpleName_iff.1 (isSimpleName_base h)).2
  rw [written] at hc
  split at hc
  · exact (hbase c hc).1
  · rename_i qualifier hq
    have hqualifier := (isSimpleName_iff.1 (isSimpleName_qualifier h hq)).2
    rcases List.mem_append.1 hc with hc | hc
    · exact (hqualifier c hc).1
    · rcases List.mem_cons.1 hc with rfl | hc
      · decide
      · exact (hbase c hc).1

theorem ne_of_mem (h : name.isWellFormed = true) {c d : Char} (hc : c ∈ name.written)
    (hd : isTagMark d = true) : c ≠ d := by
  rintro rfl
  rw [isTagMark_of_mem h hc] at hd
  cases hd

theorem isSpace_of_mem (h : name.isWellFormed = true) {c : Char} (hc : c ∈ name.written) :
    isSpace c = false := by
  have hmark := isTagMark_of_mem h hc
  rw [isTagMark, Bool.or_eq_false_iff] at hmark
  exact hmark.1

theorem written_ne_nil (h : name.isWellFormed = true) : name.written ≠ [] := by
  rw [written]
  split
  · exact (isSimpleName_iff.1 (isSimpleName_base h)).1
  · simp

theorem exists_written_eq_cons (h : name.isWellFormed = true) :
    ∃ c r, name.written = c :: r ∧ isTagMark c = false := by
  obtain ⟨c, r, hname⟩ := List.exists_cons_of_ne_nil (written_ne_nil h)
  exact ⟨c, r, hname, isTagMark_of_mem h (hname ▸ List.mem_cons_self)⟩

theorem namePrefix?_written (h : name.isWellFormed = true) :
    namePrefix? name.written = name.qualifier := by
  rw [written, namePrefix?]
  cases hq : name.qualifier with
  | none => exact if_neg (colon_notMem_of_isSimpleName (isSimpleName_base h))
  | some qualifier =>
    have hcolon : ':' ∈ qualifier ++ ':' :: name.base := by simp
    have hqualifier : ∀ c ∈ qualifier, decide (c ≠ ':') = true := by
      intro c hc
      simpa using ((isSimpleName_iff.1 (isSimpleName_qualifier h hq)).2 c hc).2
    exact (if_pos hcolon).trans (congrArg some (takeWhile_run hqualifier rfl))

theorem localName_written (h : name.isWellFormed = true) : localName name.written = name.base := by
  rw [written, localName]
  cases hq : name.qualifier with
  | none => exact if_neg (colon_notMem_of_isSimpleName (isSimpleName_base h))
  | some qualifier =>
    have hcolon : ':' ∈ qualifier ++ ':' :: name.base := by simp
    have hqualifier : ∀ c ∈ qualifier, decide (c ≠ ':') = true := by
      intro c hc
      simpa using ((isSimpleName_iff.1 (isSimpleName_qualifier h hq)).2 c hc).2
    refine (if_pos hcolon).trans ?_
    rw [dropWhile_run hqualifier rfl]
    rfl

end QName

/-! ### The ends of tags -/

/-- No bracket in a text closes the tag that the text stands in. -/
def Skips (s : List Char) : Prop :=
  ∀ r, cutTag? none (s ++ r) = (cutTag? none r).map fun cut => (s ++ cut.1, cut.2)

namespace Skips

variable {s s' : List Char}

theorem nil : Skips [] := by
  intro r
  cases h : cutTag? none r <;> simp [h]

theorem append (h : Skips s) (h' : Skips s') : Skips (s ++ s') := by
  intro r
  rw [List.append_assoc, h, h', Option.map_map]
  congr 1
  funext cut
  exact congrArg (·, cut.2) (List.append_assoc s s' cut.1).symm

theorem flatMap {α : Type} {parts : List α} {f : α → List Char} (h : ∀ a ∈ parts, Skips (f a)) :
    Skips (parts.flatMap f) := by
  induction parts with
  | nil => exact nil
  | cons a parts ih =>
    obtain ⟨ha, hparts⟩ := List.forall_mem_cons.1 h
    exact ha.append (ih hparts)

theorem of_forall (h : ∀ c ∈ s, c ≠ '>' ∧ c ≠ '"' ∧ c ≠ '\'') : Skips s := by
  intro r
  induction s with
  | nil => exact nil r
  | cons c s ih =>
    obtain ⟨⟨hclose, hdouble, hsingle⟩, hs⟩ := List.forall_mem_cons.1 h
    have hquote : ¬(c = '"' ∨ c = '\'') := not_or.2 ⟨hdouble, hsingle⟩
    rw [List.cons_append, cutTag?]
    simp only [if_neg hclose, if_neg hquote]
    rw [ih hs, Option.map_map]
    rfl

/-- Between quotes every bracket is part of the value. -/
theorem quoted {q : Char} (hq : q = '"' ∨ q = '\'') {v : List Char} (hv : q ∉ v) :
    Skips (q :: (v ++ [q])) := by
  intro r
  have hclose : q ≠ '>' := by
    rintro rfl
    simp at hq
  have hvalue : cutTag? (some q) (v ++ q :: r) =
      (cutTag? none r).map fun cut => (v ++ q :: cut.1, cut.2) := by
    induction v with
    | nil =>
      rw [List.nil_append, cutTag?]
      simp only [if_true]
      rfl
    | cons c v ih =>
      obtain ⟨hc, hv⟩ := not_or.1 (mt List.mem_cons.2 hv)
      rw [List.cons_append, cutTag?]
      simp only [if_neg (Ne.symm hc)]
      rw [ih hv, Option.map_map]
      rfl
  have htext : q :: (v ++ [q]) ++ r = q :: (v ++ q :: r) := by simp
  rw [htext, cutTag?]
  simp only [if_neg hclose, if_pos hq]
  rw [hvalue, Option.map_map]
  congr 1
  funext cut
  simp

theorem of_spaces (h : s.all isSpace = true) : Skips s := by
  refine of_forall fun c hc => ?_
  have hspace := List.all_eq_true.1 h c hc
  refine ⟨?_, ?_, ?_⟩ <;>
    · rintro rfl
      cases hspace

theorem name {name : QName} (h : name.isWellFormed = true) : Skips name.written :=
  of_forall fun _ hc =>
    ⟨QName.ne_of_mem h hc rfl, QName.ne_of_mem h hc rfl, QName.ne_of_mem h hc rfl⟩

end Skips

/-! ### Attributes -/

namespace WrittenAttribute

/-- What the reader keeps of an attribute. -/
def raw (a : WrittenAttribute) : Attribute := ⟨a.name.written, a.value.written⟩

/-- The conditions of a well-formed attribute that its text is read by. -/
structure IsReadable (a : WrittenAttribute) : Prop where
  space_ne_nil : a.space ≠ []
  space : a.space.all isSpace = true
  name : a.name.isWellFormed = true
  before : a.before.all isSpace = true
  behind : a.behind.all isSpace = true
  quote : a.quote = '"' ∨ a.quote = '\''
  value : a.value.isWellFormed = true
  quote_notMem : a.quote ∉ a.value.written

variable {a : WrittenAttribute}

theorem isReadable (h : a.isWellFormed = true) : a.IsReadable := by
  simp only [isWellFormed, Bool.and_eq_true, Bool.not_eq_true', List.isEmpty_eq_false_iff,
    List.contains_eq_mem, decide_eq_false_iff_not, decide_eq_true_eq, List.mem_cons,
    List.not_mem_nil, or_false] at h
  obtain ⟨⟨⟨⟨⟨⟨⟨⟨hne, hspace⟩, hname⟩, hbefore⟩, hbehind⟩, hquote⟩, hvalue⟩, hnotMem⟩, -⟩ := h
  exact ⟨hne, hspace, hname, hbefore, hbehind, hquote, hvalue, hnotMem⟩

theorem skips (h : a.IsReadable) : Skips a.written := by
  have hequals : Skips ['='] := .of_forall (List.forall_mem_singleton.2 (by decide))
  have hvalue := Skips.quoted h.quote h.quote_notMem
  have hrest := hequals.append ((Skips.of_spaces h.behind).append hvalue)
  exact (Skips.of_spaces h.space).append
    ((Skips.name h.name).append ((Skips.of_spaces h.before).append hrest))

/-- An attribute is read from its first character up to its closing quote. -/
theorem attribute?_written (h : a.IsReadable) {first : Char} {name : List Char}
    (hname : a.name.written = first :: name) (r : List Char) :
    attribute? first (name ++ (a.before ++ '=' :: (a.behind ++
      a.quote :: (a.value.written ++ a.quote :: r)))) = some (a.raw, r) := by
  have hrun : ∀ c ∈ name, (!(decide (c = '=') || isSpace c)) = true := by
    intro c hc
    have hmem : c ∈ a.name.written := hname ▸ List.mem_cons_of_mem _ hc
    simp [QName.ne_of_mem h.name hmem (d := '=') rfl, QName.isSpace_of_mem h.name hmem]
  have hend : ∀ t, (a.before ++ '=' :: t).head?.any (fun c => !(decide (c = '=') || isSpace c)) =
      false := by
    intro t
    have hbefore := h.before
    cases hb : a.before with
    | nil => rfl
    | cons c before =>
      rw [hb, List.all_cons, Bool.and_eq_true] at hbefore
      simp [hbefore.1]
  have hequals : ∀ t, ('=' :: t).head?.any isSpace = false := fun t => rfl
  have hquote : ∀ t, (a.quote :: t).head?.any isSpace = false := by
    intro t
    rcases h.quote with hq | hq <;> rw [hq] <;> rfl
  have hvalue : ∀ c ∈ a.value.written, decide (c ≠ a.quote) = true := by
    intro c hc
    exact decide_eq_true (ne_of_mem_of_not_mem hc h.quote_notMem)
  have hstop : ∀ t, (a.quote :: t).head?.any (fun c => decide (c ≠ a.quote)) = false := by
    intro t
    simp
  unfold attribute?
  simp only [takeWhile_run hrun (hend _), dropWhile_run hrun (hend _),
    dropWhile_run (List.all_eq_true.1 h.before) (hequals _),
    dropWhile_run (List.all_eq_true.1 h.behind) (hquote _), if_pos h.quote,
    takeWhile_run hvalue (hstop _), dropWhile_run hvalue (hstop _), ← hname]
  rfl

end WrittenAttribute

/-- The attributes of a tag are read one after the other. -/
theorem attributesFrom_written {attributes : List WrittenAttribute}
    (h : ∀ a ∈ attributes, a.IsReadable) {trail : List Char} (htrail : trail.all isSpace = true)
    {fuel : Nat} (hfuel : attributes.length ≤ fuel) :
    attributesFrom fuel (attributes.flatMap (·.written) ++ trail) =
      ⟨attributes.map (·.raw), true⟩ := by
  induction attributes generalizing fuel with
  | nil =>
    cases fuel with
    | zero => rfl
    | succ fuel =>
      have hdrop : trail.dropWhile isSpace = [] :=
        List.dropWhile_eq_nil_iff.2 (List.all_eq_true.1 htrail)
      rw [List.flatMap_nil, List.nil_append, attributesFrom, hdrop]
      rfl
  | cons a attributes ih =>
    obtain ⟨ha, hattributes⟩ := List.forall_mem_cons.1 h
    obtain ⟨fuel, rfl⟩ : ∃ f, fuel = f + 1 :=
      Nat.exists_eq_succ_of_ne_zero (by simp at hfuel; omega)
    obtain ⟨first, name, hname, hfirst⟩ := QName.exists_written_eq_cons ha.name
    have hspace : isSpace first = false :=
      QName.isSpace_of_mem ha.name (hname ▸ List.mem_cons_self)
    have htext : (a :: attributes).flatMap (·.written) ++ trail =
        a.space ++ first :: (name ++ (a.before ++ '=' :: (a.behind ++ a.quote ::
          (a.value.written ++ a.quote :: (attributes.flatMap (·.written) ++ trail))))) := by
      simp [WrittenAttribute.written, hname]
    have hdrop : ∀ t, (a.space ++ first :: t).dropWhile isSpace = first :: t := fun t =>
      dropWhile_run (List.all_eq_true.1 ha.space) hspace
    rw [htext, attributesFrom, hdrop]
    simp only [WrittenAttribute.attribute?_written ha hname,
      ih hattributes (Nat.le_of_succ_le_succ hfuel)]
    rfl

/-! ### The events of tags -/

theorem cut?_cons {c : Char} (h : isTagMark c = false) (r : List Char) :
    cut? (c :: r) = cutTag? none (c :: r) := by
  have hbang : c ≠ '!' := by rintro rfl; cases h
  have hask : c ≠ '?' := by rintro rfl; cases h
  simp only [cut?]
  split <;> simp_all

theorem event?_cons {c : Char} (h : isTagMark c = false) (opened : List (List Char))
    (r : List Char) :
    event? opened (c :: r) = match tagEvent (c :: r) with
      | .start tag => some (.start tag, tag.name :: opened)
      | e => some (e, opened) := by
  have hbang : c ≠ '!' := by rintro rfl; cases h
  have hslash : c ≠ '/' := by rintro rfl; cases h
  have hask : c ≠ '?' := by rintro rfl; cases h
  simp only [event?]
  split
  · simp_all
  · simp_all
  · simp_all
  · rfl

theorem getLast?_append_ne {s s' : List Char} {d : Char} (h : s.getLast? ≠ some d)
    (h' : s'.getLast? ≠ some d) : (s ++ s').getLast? ≠ some d := by
  rw [List.getLast?_append]
  cases hlast : s'.getLast? with
  | none => exact h
  | some c => exact fun heq => h' (hlast.trans heq)

namespace OpenTag

variable {tag : OpenTag}

/-- What the reader keeps of a tag. -/
def raw (tag : OpenTag) : Tag := ⟨tag.name.written, tag.rest⟩

theorem isWellFormed_iff :
    tag.isWellFormed = true ↔ tag.name.isWellFormed = true ∧
      (∀ a ∈ tag.attributes, a.isWellFormed = true) ∧ tag.trail.all isSpace = true := by
  simp [isWellFormed, and_assoc]

theorem isReadable (h : tag.isWellFormed = true) : ∀ a ∈ tag.attributes, a.IsReadable :=
  fun a ha => WrittenAttribute.isReadable ((isWellFormed_iff.1 h).2.1 a ha)

theorem length_le_length_rest (tag : OpenTag) :
    tag.attributes.length ≤ tag.rest.length := by
  have hlength : ∀ attributes : List WrittenAttribute,
      attributes.length ≤ (attributes.flatMap (·.written)).length := by
    intro attributes
    induction attributes with
    | nil => exact Nat.le_refl _
    | cons a attributes ih =>
      have ha : 0 < a.written.length := by
        simp only [WrittenAttribute.written, List.length_append, List.length_cons]
        omega
      rw [List.flatMap_cons, List.length_append, List.length_cons]
      omega
  rw [rest, List.length_append]
  exact Nat.le_trans (hlength _) (Nat.le_add_right _ _)

theorem attributes_raw (h : tag.isWellFormed = true) :
    tag.raw.attributes = ⟨tag.attributes.map (·.raw), true⟩ :=
  attributesFrom_written (isReadable h) (isWellFormed_iff.1 h).2.2 (length_le_length_rest tag)

theorem any_head?_rest (h : tag.isWellFormed = true) :
    tag.rest.head?.any (fun c => !isSpace c) = false := by
  have hspaces : ∀ s t : List Char, s ≠ [] → s.all isSpace = true →
      (s ++ t).head?.any (fun c => !isSpace c) = false := by
    intro s t hne hs
    obtain ⟨c, s, rfl⟩ := List.exists_cons_of_ne_nil hne
    simp [(Bool.and_eq_true_iff.1 hs).1]
  have hreadable := isReadable h
  rw [rest]
  cases hattributes : tag.attributes with
  | nil =>
    cases htrail : tag.trail with
    | nil => rfl
    | cons c trail =>
      rw [List.flatMap_nil, List.nil_append, ← List.append_nil (c :: trail)]
      exact hspaces _ [] (List.cons_ne_nil _ _) (htrail ▸ (isWellFormed_iff.1 h).2.2)
  | cons a attributes =>
    rw [hattributes] at hreadable
    have ha := hreadable a List.mem_cons_self
    rw [List.flatMap_cons, WrittenAttribute.written, List.append_assoc, List.append_assoc]
    exact hspaces _ _ ha.space_ne_nil ha.space

theorem tag_of_content (h : tag.isWellFormed = true) : Tag.of tag.content = tag.raw := by
  have hname : ∀ c ∈ tag.name.written, (!isSpace c) = true := by
    intro c hc
    rw [QName.isSpace_of_mem (isWellFormed_iff.1 h).1 hc]
    rfl
  rw [Tag.of, content, takeWhile_run hname (any_head?_rest h),
    dropWhile_run hname (any_head?_rest h)]
  rfl

theorem skips_content (h : tag.isWellFormed = true) : Skips tag.content :=
  (Skips.name (isWellFormed_iff.1 h).1).append
    ((Skips.flatMap fun a ha => WrittenAttribute.skips (isReadable h a ha)).append
      (Skips.of_spaces (isWellFormed_iff.1 h).2.2))

/-- A tag that opens an element does not look as if it were closed at once. -/
theorem getLast?_content_ne (h : tag.isWellFormed = true) : tag.content.getLast? ≠ some '/' := by
  have hname : tag.name.written.getLast? ≠ some '/' := fun hlast =>
    QName.ne_of_mem (isWellFormed_iff.1 h).1 (List.mem_of_getLast? hlast) rfl rfl
  have htrail : tag.trail.getLast? ≠ some '/' := by
    intro hlast
    have hspace := List.all_eq_true.1 (isWellFormed_iff.1 h).2.2 _ (List.mem_of_getLast? hlast)
    cases hspace
  have hattributes : ∀ attributes : List WrittenAttribute, (∀ a ∈ attributes, a.IsReadable) →
      (attributes.flatMap (·.written)).getLast? ≠ some '/' := by
    intro attributes
    induction attributes with
    | nil => exact fun _ => by simp
    | cons a attributes ih =>
      intro h
      obtain ⟨ha, hattributes⟩ := List.forall_mem_cons.1 h
      have hlast : a.written.getLast? = some a.quote := by
        simp [WrittenAttribute.written, List.getLast?_append, List.getLast?_cons]
      have hquote : a.quote ≠ '/' := by
        rcases ha.quote with hq | hq <;> rw [hq] <;> decide
      rw [List.flatMap_cons]
      exact getLast?_append_ne (hlast ▸ mt Option.some.inj hquote) (ih hattributes)
  exact getLast?_append_ne hname (getLast?_append_ne (hattributes _ (isReadable h)) htrail)

theorem tagEvent_content (h : tag.isWellFormed = true) : tagEvent tag.content = .start tag.raw := by
  rw [tagEvent]
  split
  · rename_i r hreverse
    refine absurd ?_ (getLast?_content_ne h)
    rw [← List.head?_reverse, hreverse]
    rfl
  · rw [tag_of_content h]

theorem tagEvent_closed (h : tag.isWellFormed = true) :
    tagEvent (tag.content ++ ['/']) = .empty tag.raw := by
  rw [tagEvent, List.reverse_append]
  simp only [List.reverse_singleton, List.singleton_append, List.reverse_reverse]
  rw [tag_of_content h]

/-- A tag begins with the first character of its name. -/
theorem exists_content_eq_cons (h : tag.isWellFormed = true) :
    ∃ c r, tag.content = c :: r ∧ isTagMark c = false := by
  obtain ⟨c, r, hname, hc⟩ := QName.exists_written_eq_cons (isWellFormed_iff.1 h).1
  exact ⟨c, r ++ tag.rest, by rw [content, hname]; rfl, hc⟩

/-- A tag that opens an element is read as such. -/
theorem readFrom_start (h : tag.isWellFormed = true) (opened : List (List Char)) (r : List Char) :
    readFrom opened ('<' :: (tag.content ++ '>' :: r)) =
      (readFrom (tag.name.written :: opened) r).after (.start tag.raw) := by
  obtain ⟨c, s, hcontent, hc⟩ := exists_content_eq_cons h
  have hcut : cut? (tag.content ++ '>' :: r) = some (tag.content, r) := by
    have hskip := skips_content h ('>' :: r)
    rw [hcontent] at hskip ⊢
    rw [List.cons_append, cut?_cons hc, ← List.cons_append, hskip]
    simp [cutTag?]
  have hevent : event? opened tag.content = some (.start tag.raw, tag.name.written :: opened) := by
    have htag := tagEvent_content h
    rw [hcontent] at htag ⊢
    rw [event?_cons hc, htag]
    rfl
  exact readFrom_markup hcut hevent

/-- A tag that is closed at once is read as such. -/
theorem readFrom_closed (h : tag.isWellFormed = true) (opened : List (List Char)) (r : List Char) :
    readFrom opened ('<' :: (tag.content ++ '/' :: '>' :: r)) =
      (readFrom opened r).after (.empty tag.raw) := by
  obtain ⟨c, s, hcontent, hc⟩ := exists_content_eq_cons h
  have hcut : cut? (tag.content ++ '/' :: '>' :: r) = some (tag.content ++ ['/'], r) := by
    have hskip := skips_content h ('/' :: '>' :: r)
    rw [hcontent] at hskip ⊢
    rw [List.cons_append, cut?_cons hc, ← List.cons_append, hskip]
    simp [cutTag?]
  have hevent : event? opened (tag.content ++ ['/']) = some (.empty tag.raw, opened) := by
    have htag := tagEvent_closed h
    rw [hcontent] at htag ⊢
    rw [List.cons_append] at htag ⊢
    rw [event?_cons hc, htag]
  exact readFrom_markup hcut hevent

end OpenTag

/-- White space may follow the name in an end tag. -/
theorem endName_written {name : QName} (h : name.isWellFormed = true) {trail : List Char}
    (htrail : trail.all isSpace = true) : endName (name.written ++ trail) = name.written := by
  have hspaces : ∀ c ∈ trail.reverse, isSpace c = true := fun c hc =>
    List.all_eq_true.1 htrail c (List.mem_reverse.1 hc)
  have hlast : name.written.reverse.head?.any isSpace = false := by
    rw [List.head?_reverse]
    cases hlast : name.written.getLast? with
    | none => rfl
    | some c => exact QName.isSpace_of_mem h (List.mem_of_getLast? hlast)
  have hne : ¬ name.written.isEmpty = true := by
    simpa using QName.written_ne_nil h
  rw [endName, List.reverse_append, dropWhile_run hspaces hlast, List.reverse_reverse]
  exact if_neg hne

/-- The tag that closes the element opened last is read as such. -/
theorem readFrom_endTag {name : QName} (h : name.isWellFormed = true) {trail : List Char}
    (htrail : trail.all isSpace = true) (opened : List (List Char)) (r : List Char) :
    readFrom (name.written :: opened) (endTag name.written trail ++ r) =
      (readFrom opened r).after (.finish name.written) := by
  have hslash : Skips ['/'] := .of_forall (List.forall_mem_singleton.2 (by decide))
  have hskips : Skips ('/' :: (name.written ++ trail)) :=
    hslash.append ((Skips.name h).append (Skips.of_spaces htrail))
  have hcut : cut? ('/' :: (name.written ++ trail) ++ '>' :: r) =
      some ('/' :: (name.written ++ trail), r) := by
    change cutTag? none _ = _
    rw [hskips]
    simp [cutTag?]
  have hname := endName_written h htrail
  have hevent : event? (name.written :: opened) ('/' :: (name.written ++ trail)) =
      some (.finish name.written, opened) := by
    simp [event?, hname, closing?]
  have htext : endTag name.written trail ++ r =
      '<' :: ('/' :: (name.written ++ trail) ++ '>' :: r) := by
    simp [endTag]
  rw [htext]
  exact readFrom_markup hcut hevent

/-! ### What stands around the root -/

/-- Markup is cut where it is closed first. -/
theorem cutMarkup?_of_closes {closes : List Char → Bool} {seen s : List Char}
    (hopen : ∀ a b, s = a ++ '>' :: b → closes (a.reverse ++ seen) = false)
    (hclose : closes (s.reverse ++ seen) = true) (r : List Char) :
    cutMarkup? closes seen (s ++ '>' :: r) = some (seen.reverse ++ s, r) := by
  induction s generalizing seen with
  | nil =>
    rw [List.nil_append, cutMarkup?, if_pos ⟨rfl, hclose⟩, List.append_nil]
  | cons c s ih =>
    have hc : ¬(c = '>' ∧ closes seen = true) := by
      rintro ⟨rfl, hseen⟩
      exact Bool.false_ne_true ((hopen [] s rfl).symm.trans hseen)
    have hrest : ∀ a b, s = a ++ '>' :: b → closes (a.reverse ++ c :: seen) = false := by
      intro a b hs
      have hlonger := hopen (c :: a) b (congrArg (c :: ·) hs)
      rwa [List.reverse_cons, List.append_assoc, List.singleton_append] at hlonger
    have hend : closes (s.reverse ++ c :: seen) = true := by
      rwa [List.reverse_cons, List.append_assoc, List.singleton_append] at hclose
    rw [List.cons_append, cutMarkup?, if_neg hc, ih hrest hend, List.reverse_cons,
      List.append_assoc, List.singleton_append]

/-- A part of two texts that ends with a character that the second one has not is a part of the
first one. -/
theorem infix_of_append_eq {s t a u b : List Char} {c : Char} (hc : c ∉ t)
    (h : s ++ t = a ++ (u ++ c :: b)) : u ++ [c] <:+: s := by
  have hparts : s ++ t = (a ++ (u ++ [c])) ++ b := by simpa using h
  obtain ⟨k, hk, ht⟩ | ⟨k, rfl, -⟩ := List.append_eq_append_iff.1 hparts
  · cases k using List.reverseRecOn with
    | nil => exact ⟨a, [], by simpa using hk⟩
    | append_singleton k d =>
      rw [← List.append_assoc, ← List.append_assoc] at hk
      obtain rfl : c = d := List.singleton_inj.1 (List.append_inj' hk rfl).2
      exact absurd (by simp [ht]) hc
  · exact ⟨a, k, by simp⟩

namespace Aside

/-- The event of markup around the root. -/
def event : Aside → Event
  | comment _ => .comment
  | instruction _ => .instruction
  | doctype _ => .doctype

/-- Nothing inside of a comment closes it. -/
theorem closesComment_of_notInfix {body front b : List Char} (h : ¬ ['-', '-'] <:+: body)
    (hcontent : (comment body).content = front ++ '>' :: b) :
    closesComment front.reverse = false := by
  have hhyphens : "--".toList = ['-', '-'] := rfl
  rw [closesComment, hhyphens, Bool.and_eq_false_imp]
  intro hlength
  rw [Bool.eq_false_iff]
  intro hclosed
  apply h
  obtain ⟨t, ht⟩ := List.isPrefixOf_iff_prefix.1 hclosed
  have hfront : front = t.reverse ++ ['-', '-'] := by
    rw [← List.reverse_reverse front, ← ht]
    simp
  -- The hyphens of the opening are none of those that close.
  rcases hopening : t.reverse with _ | ⟨x, _ | ⟨y, _ | ⟨z, u⟩⟩⟩
  iterate 3 simp [hfront, hopening] at hlength
  have hbody : body ++ ['-', '-'] = u ++ (['-', '-'] ++ '>' :: b) := by
    have htail := congrArg (List.drop 3) hcontent
    simpa [hfront, hopening, content] using htail
  have hnotMem : '>' ∉ ['-', '-'] := by decide
  have hinfix : ['-', '-'] ++ ['>'] <:+: body := infix_of_append_eq hnotMem hbody
  exact (List.prefix_append ['-', '-'] ['>']).isInfix.trans hinfix

/-- Nothing inside of an instruction closes it. -/
theorem closesInstruction_of_notInfix {body front b : List Char}
    (h : ¬ ['?', '>'] <:+: '?' :: body)
    (hcontent : (instruction body).content = front ++ '>' :: b) :
    closesInstruction front.reverse = false := by
  rw [closesInstruction, Bool.eq_false_iff]
  intro hclosed
  apply h
  obtain ⟨t, ht⟩ := List.isPrefixOf_iff_prefix.1 hclosed
  have hfront : front = t.reverse ++ ['?'] := by
    rw [← List.reverse_reverse front, ← ht]
    simp
  have hbody : '?' :: body ++ ['?'] = t.reverse ++ (['?'] ++ '>' :: b) := by
    simpa [hfront, content] using hcontent
  have hnotMem : '>' ∉ ['?'] := by decide
  exact infix_of_append_eq hnotMem hbody

theorem cut?_content {a : Aside} (h : a.IsWellFormed) (r : List Char) :
    cut? (a.content ++ '>' :: r) = some (a.content, r) := by
  cases a with
  | comment body =>
    have hcut : cut? ((comment body).content ++ '>' :: r) =
        cutMarkup? closesComment [] ((comment body).content ++ '>' :: r) := rfl
    rw [hcut]
    refine cutMarkup?_of_closes (fun front b hcontent => ?_) ?_ r
    · rw [List.append_nil]
      exact closesComment_of_notInfix h hcontent
    · simp [content, closesComment]
  | instruction body =>
    have hcut : cut? ((instruction body).content ++ '>' :: r) =
        cutMarkup? closesInstruction [] ((instruction body).content ++ '>' :: r) := rfl
    rw [hcut]
    refine cutMarkup?_of_closes (fun front b hcontent => ?_) ?_ r
    · rw [List.append_nil]
      exact closesInstruction_of_notInfix h hcontent
    · simp [content, closesInstruction]
  | doctype body =>
    obtain ⟨hpaired, hbalanced, -⟩ := h
    have hcut : cut? ((doctype body).content ++ '>' :: r) =
        cutMarkup? closesDoctype [] ((doctype body).content ++ '>' :: r) := rfl
    have hlead : '<' ∉ doctypeLead ∧ '>' ∉ doctypeLead := by decide
    rw [hcut]
    refine cutMarkup?_of_closes (fun front b hcontent => ?_) ?_ r
    · obtain ⟨a, rfl, hbody⟩ | ⟨a, hopening, hbody⟩ := List.append_eq_append_iff.1 hcontent
      · have hopen := hpaired a b hbody
        simp [closesDoctype, List.count_eq_zero_of_not_mem, hlead]
        omega
      · cases a with
        | nil => exact absurd (hpaired [] b hbody.symm) (by simp)
        | cons c a =>
          obtain rfl : '>' = c := (List.cons.inj hbody).1
          exact absurd (hopening ▸ by simp) hlead.2
    · simp [content, closesDoctype, List.count_eq_zero_of_not_mem, hlead, hbalanced]

theorem event?_content {a : Aside} (h : a.IsWellFormed) (opened : List (List Char)) :
    event? opened a.content = some (a.event, opened) := by
  cases a with
  | comment body => rfl
  | instruction body => simp [event?, content, event]
  | doctype body =>
    have hbody := h.2.2
    simp [event?, content, doctypeLead, event, bangEvent?, hbody]

/-- Markup around the root is read as such. -/
theorem readFrom_aside {a : Aside} (h : a.IsWellFormed) (opened : List (List Char))
    (r : List Char) :
    readFrom opened ('<' :: (a.content ++ '>' :: r)) = (readFrom opened r).after a.event :=
  readFrom_markup (cut?_content h r) (event?_content h opened)

end Aside

theorem lt_notMem_of_spaces {s : List Char} (h : s.all isSpace = true) : '<' ∉ s := by
  intro hlt
  cases List.all_eq_true.1 h _ hlt

/-- Character data is read up to the end where no tag follows. -/
theorem readFrom_last {s : List Char} (hs : s ≠ []) (hlt : '<' ∉ s) (opened : List (List Char)) :
    readFrom opened s = (⟨[], true⟩ : Reading).after (.text s) := by
  obtain ⟨c, r, rfl⟩ := List.exists_cons_of_ne_nil hs
  have hc : c ≠ '<' := fun h => hlt (h ▸ List.mem_cons_self)
  have hr : ∀ d ∈ r, decide (d ≠ '<') = true := fun d hd =>
    decide_eq_true fun h => hlt (List.mem_cons_of_mem _ (h ▸ hd))
  rw [readFrom, if_neg hc, List.dropWhile_eq_nil_iff.2 hr, List.takeWhile_eq_self_iff.2 hr,
    readFrom_nil]

theorem read_of_head? {s : List Char} (h : s.head? ≠ some '\uFEFF') : read s = readFrom [] s := by
  rw [read]
  rintro r rfl
  exact h rfl

/-- A document begins with white space or with a bracket. -/
theorem Surroundings.head?_written_append {s : Surroundings} (h : s.IsWellFormed)
    (r : List Char) : (s.written ++ '<' :: r).head? ≠ some '\uFEFF' := by
  have hspaces {spaces : List Char} (hspaces : spaces.all isSpace = true) (t : List Char) :
      (spaces ++ '<' :: t).head? ≠ some '\uFEFF' := by
    intro hhead
    cases spaces with
    | nil => cases hhead
    | cons c spaces =>
      obtain rfl := Option.some.inj hhead
      cases (Bool.and_eq_true_iff.1 hspaces).1
  rw [written]
  cases hasides : s.asides with
  | nil => exact hspaces h.2 r
  | cons a asides =>
    have ha := h.1 a (hasides ▸ List.mem_cons_self)
    rw [List.flatMap_cons, List.append_assoc, List.append_assoc, List.append_assoc,
      List.cons_append]
    exact hspaces ha.1 _

theorem Root.exists_written_eq_cons (root : Root) : ∃ r, root.written = '<' :: r := by
  cases root <;> exact ⟨_, rfl⟩

/-- A byte order mark is no part of what is read. -/
theorem Document.read_written {d : Document} (h : d.before.IsWellFormed) :
    read d.written = readFrom [] (d.before.written ++ (d.root.written ++ d.behind.written)) := by
  rw [written]
  cases d.marked with
  | true => rfl
  | false =>
    obtain ⟨r, hroot⟩ := d.root.exists_written_eq_cons
    rw [hroot]
    exact read_of_head? (Surroundings.head?_written_append h _)

end ReleaseGap.Xml
