import ReleaseGap.Proofs.Text.Cutting
import ReleaseGap.Xml.Entity
import ReleaseGap.Xml.Namespace

/-!
# Documents as they are written

The concrete syntax of documents made of elements and text: every blank that may stand in a tag,
both quotes, and every way to write a character.  Comments, instructions and a document type may
stand around the root.  The conditions of being well-formed ask no more of a document than XML and
its namespaces do.
-/
namespace ReleaseGap.Xml

/-! ### Text -/

/-- One character as it is written in a text or in a value. -/
inductive Item where
  | plain (c : Char)
  /-- A reference to one of the five predefined entities. -/
  | entity (c : Char)
  /-- A reference by a code point. -/
  | code (hexadecimal : Bool) (digits : List Char)
deriving DecidableEq

namespace Item

/-- What stands before the digits of a code point. -/
def lead (hexadecimal : Bool) : List Char := if hexadecimal then ['#', 'x'] else ['#']

def base (hexadecimal : Bool) : Nat := if hexadecimal then 16 else 10

/-- Whether a character is a digit of a base. -/
def isDigitOf (base : Nat) (d : Char) : Bool := (hexValue? d).any (· < base)

/-- The number that digits stand for. -/
def codeOf (base : Nat) (digits : List Char) : Nat :=
  digits.foldl (fun n d => n * base + (hexValue? d).getD 0) 0

def written : Item → List Char
  | plain c => [c]
  | entity c => escapeChar c
  | code hexadecimal digits => '&' :: (lead hexadecimal ++ digits ++ [';'])

/-- The character that is meant. -/
def char : Item → Char
  | plain c => c
  | entity c => c
  | code hexadecimal digits => Char.ofNat (codeOf (base hexadecimal) digits)

def isWellFormed : Item → Bool
  | plain c => c ≠ '<' && c ≠ '&'
  | entity c => (entityName? c).isSome
  | code hexadecimal digits =>
    let n := codeOf (base hexadecimal) digits
    !digits.isEmpty && digits.all (isDigitOf (base hexadecimal))
      && n ≠ 0 && decide n.isValidChar

end Item

/-- The characters of a text or of a value. -/
abbrev Items := List Item

namespace Items

def written (items : Items) : List Char := items.flatMap Item.written

/-- The text with its references resolved. -/
def resolved (items : Items) : List Char := items.map Item.char

/-- The value of an attribute.  White space that is written as such counts as blanks, and a carriage
return before a line feed is nothing. -/
def normalized : Items → List Char
  | [] => []
  | .plain c :: more =>
    if c = '\r' ∧ more.head? = some (.plain '\n') then normalized more
    else (if isSpace c then ' ' else c) :: normalized more
  | item :: more => item.char :: normalized more

def isWellFormed (items : Items) : Bool := items.all Item.isWellFormed

end Items

/-- Resolving a reference goes on behind its semicolon. -/
theorem unescapeFrom?_some_append {n s : List Char} (hamp : '&' ∉ s) (hsemi : ';' ∉ s)
    (r : List Char) :
    unescapeFrom? (some n) (s ++ ';' :: r) =
      (reference? (n.reverse ++ s)).bind fun d => (unescapeFrom? none r).map (d :: ·) := by
  induction s generalizing n with
  | nil =>
    rw [List.nil_append, unescapeFrom?, if_pos rfl, List.append_nil]
    refine Option.bind_congr fun d _ => ?_
    cases unescapeFrom? none r <;> rfl
  | cons c s ih =>
    obtain ⟨hc, hamp⟩ := not_or.1 (mt List.mem_cons.2 hamp)
    obtain ⟨hc', hsemi⟩ := not_or.1 (mt List.mem_cons.2 hsemi)
    rw [List.cons_append, unescapeFrom?, if_neg (Ne.symm hc'), if_neg (Ne.symm hc),
      ih hamp hsemi, List.reverse_cons, List.append_assoc, List.singleton_append]

namespace Item

theorem ne_of_isDigitOf {base : Nat} {c d : Char} (hc : isDigitOf base c = true)
    (hd : hexValue? d = none) : c ≠ d := by
  rintro rfl
  rw [isDigitOf, hd] at hc
  cases hc

theorem digitsIn?_eq {base : Nat} {digits : List Char} (hne : digits ≠ [])
    (h : ∀ d ∈ digits, isDigitOf base d = true) :
    digitsIn? base digits = some (codeOf base digits) := by
  have hfold : ∀ (digits : List Char) (n : Nat), (∀ d ∈ digits, isDigitOf base d = true) →
      digits.foldlM (fun n c => (hexValue? c).bind fun d =>
        if d < base then some (n * base + d) else none) n =
          some (digits.foldl (fun n d => n * base + (hexValue? d).getD 0) n) := by
    intro digits
    induction digits with
    | nil => exact fun n _ => rfl
    | cons d digits ih =>
      intro n h
      obtain ⟨hd, hdigits⟩ := List.forall_mem_cons.1 h
      rw [isDigitOf] at hd
      cases hv : hexValue? d with
      | none =>
        rw [hv] at hd
        cases hd
      | some v =>
        rw [hv, Option.any_some, decide_eq_true_eq] at hd
        rw [List.foldlM_cons, hv, Option.bind_some, if_pos hd, List.foldl_cons, hv]
        exact ih _ hdigits
  rw [digitsIn?, if_neg (by simpa using hne)]
  exact hfold digits 0 h

theorem isWellFormed_code_iff {hexadecimal : Bool} {digits : List Char} :
    (code hexadecimal digits).isWellFormed = true ↔
      digits ≠ [] ∧ (∀ d ∈ digits, isDigitOf (base hexadecimal) d = true) ∧
        codeOf (base hexadecimal) digits ≠ 0 ∧
        (codeOf (base hexadecimal) digits).isValidChar := by
  simp [isWellFormed, and_assoc]

theorem reference?_code {hexadecimal : Bool} {digits : List Char}
    (h : (code hexadecimal digits).isWellFormed = true) :
    reference? (lead hexadecimal ++ digits) = some (code hexadecimal digits).char := by
  obtain ⟨hne, hdigits, hzero, hvalid⟩ := isWellFormed_code_iff.1 h
  have hchar : charAt? (codeOf (base hexadecimal) digits) = some (code hexadecimal digits).char :=
    if_pos ⟨hzero, hvalid⟩
  cases hexadecimal with
  | true =>
    change (digitsIn? (base true) digits).bind charAt? = _
    rw [digitsIn?_eq hne hdigits]
    exact hchar
  | false =>
    obtain ⟨d, digits, rfl⟩ := List.exists_cons_of_ne_nil hne
    have hx : d ≠ 'x' := ne_of_isDigitOf (hdigits d List.mem_cons_self) rfl
    have hdecimal : reference? ('#' :: d :: digits) =
        (digitsIn? (base false) (d :: digits)).bind charAt? := by
      rw [reference?]
      · rfl
      · rintro digits' h
        exact hx (List.cons.inj h).1
    change reference? ('#' :: d :: digits) = _
    rw [hdecimal, digitsIn?_eq hne hdigits]
    exact hchar

/-- What stands between the ampersand and the semicolon of a reference by a code point. -/
theorem notMem_code {hexadecimal : Bool} {digits : List Char} {c : Char}
    (h : (code hexadecimal digits).isWellFormed = true) (hc : hexValue? c = none)
    (hlead : c ∉ lead hexadecimal) : c ∉ lead hexadecimal ++ digits := by
  intro hmem
  rcases List.mem_append.1 hmem with hmem | hmem
  · exact hlead hmem
  · exact ne_of_isDigitOf ((isWellFormed_code_iff.1 h).2.1 c hmem) hc rfl

theorem notMem_lead {c : Char} (hc : c ∉ ['#', 'x']) (hexadecimal : Bool) :
    c ∉ lead hexadecimal := by
  cases hexadecimal with
  | true => exact hc
  | false => exact fun h => hc (List.mem_of_mem_take (i := 1) h)

theorem unescapeFrom?_written {item : Item} (h : item.isWellFormed = true) (r : List Char) :
    unescapeFrom? none (item.written ++ r) = (unescapeFrom? none r).map (item.char :: ·) := by
  cases item with
  | plain c =>
    have hc : c ≠ '&' := by
      rintro rfl
      cases h
    rw [written, List.singleton_append, unescapeFrom?]
    exact if_neg hc
  | entity c => exact unescapeFrom?_escapeChar c r
  | code hexadecimal digits =>
    have hamp : '&' ∉ lead hexadecimal ++ digits :=
      notMem_code h rfl (notMem_lead (by decide) _)
    have hsemi : ';' ∉ lead hexadecimal ++ digits :=
      notMem_code h rfl (notMem_lead (by decide) _)
    have hwritten : (code hexadecimal digits).written ++ r =
        '&' :: (lead hexadecimal ++ digits ++ ';' :: r) := by
      simp [written]
    rw [hwritten, unescapeFrom?, if_pos rfl, unescapeFrom?_some_append hamp hsemi,
      List.reverse_nil, List.nil_append, reference?_code h]
    rfl

theorem lt_notMem_written {item : Item} (h : item.isWellFormed = true) : '<' ∉ item.written := by
  cases item with
  | plain c =>
    rw [written, List.mem_singleton]
    rintro rfl
    cases h
  | entity c =>
    have hescape := lt_notMem_escape [c]
    rwa [escape, List.flatMap_singleton] at hescape
  | code hexadecimal digits =>
    have hcode : '<' ∉ lead hexadecimal ++ digits := notMem_code h rfl (notMem_lead (by decide) _)
    rw [written, List.mem_cons, List.mem_append, not_or, not_or]
    exact ⟨by decide, hcode, by decide⟩

theorem written_ne_nil (item : Item) : item.written ≠ [] := by
  cases item with
  | plain c => exact List.cons_ne_nil c []
  | entity c =>
    rw [written, escapeChar]
    split <;> exact List.cons_ne_nil _ _
  | code hexadecimal digits => exact List.cons_ne_nil _ _

/-- What stands between the ampersand and the semicolon of a reference. -/
def name? : Item → Option (List Char)
  | plain _ => none
  | entity c => entityName? c
  | code hexadecimal digits => some (lead hexadecimal ++ digits)

theorem written_of_name? {item : Item} {name : List Char} (h : item.name? = some name) :
    item.written = '&' :: (name ++ [';']) := by
  cases item with
  | plain c => cases h
  | entity c =>
    rw [name?] at h
    rw [written, escapeChar, h]
    rfl
  | code hexadecimal digits =>
    obtain rfl := Option.some.inj h
    rfl

theorem exists_plain_of_name? {item : Item} (h : item.isWellFormed = true)
    (hname : item.name? = none) : ∃ c, c ≠ '&' ∧ item = plain c := by
  cases item with
  | plain c =>
    have hc : c ≠ '<' ∧ c ≠ '&' := by simpa [isWellFormed] using h
    exact ⟨c, hc.2, rfl⟩
  | entity c =>
    rw [isWellFormed, ← name?, hname] at h
    cases h
  | code hexadecimal digits => cases hname

theorem entityName?_cases {c : Char} {name : List Char} (h : entityName? c = some name) :
    reference? name = some c ∧ ';' ∉ name ∧ name.head? ≠ some '#' := by
  simp only [entityName?] at h
  split at h <;> cases h <;> exact ⟨rfl, by decide, by decide⟩

theorem semicolon_notMem_name {item : Item} {name : List Char} (h : item.isWellFormed = true)
    (hname : item.name? = some name) : ';' ∉ name := by
  cases item with
  | plain c => cases hname
  | entity c => exact (entityName?_cases hname).2.1
  | code hexadecimal digits =>
    obtain rfl := Option.some.inj hname
    exact notMem_code h rfl (notMem_lead (by decide) _)

theorem head?_code {hexadecimal : Bool} {digits : List Char} :
    (lead hexadecimal ++ digits).head? = some '#' := by
  cases hexadecimal <;> rfl

theorem code_inj {hexadecimal hexadecimal' : Bool} {digits digits' : List Char}
    (h : (code hexadecimal digits).isWellFormed = true)
    (h' : (code hexadecimal' digits').isWellFormed = true)
    (heq : lead hexadecimal ++ digits = lead hexadecimal' ++ digits') :
    code hexadecimal digits = code hexadecimal' digits' := by
  have hx {digits digits' : List Char} (h : (code false digits).isWellFormed = true) :
      lead true ++ digits' ≠ lead false ++ digits := by
    intro heq
    obtain rfl : 'x' :: digits' = digits := (List.cons.inj heq).2
    exact ne_of_isDigitOf ((isWellFormed_code_iff.1 h).2.1 'x' List.mem_cons_self)
      (d := 'x') rfl rfl
  cases hexadecimal <;> cases hexadecimal'
  · rw [List.append_cancel_left heq]
  · exact absurd heq.symm (hx h)
  · exact absurd heq (hx h')
  · rw [List.append_cancel_left heq]

theorem eq_of_name? {item item' : Item} {name : List Char} (h : item.isWellFormed = true)
    (h' : item'.isWellFormed = true) (hname : item.name? = some name)
    (hname' : item'.name? = some name) : item = item' := by
  cases item with
  | plain c => cases hname
  | entity c =>
    have hc := entityName?_cases hname
    cases item' with
    | plain c => cases hname'
    | entity c' =>
      have hc' := entityName?_cases hname'
      rw [Option.some.inj (hc.1.symm.trans hc'.1)]
    | code hexadecimal' digits' =>
      obtain rfl := Option.some.inj hname'
      exact absurd head?_code hc.2.2
  | code hexadecimal digits =>
    obtain rfl := Option.some.inj hname
    cases item' with
    | plain c => cases hname'
    | entity c' => exact absurd head?_code (entityName?_cases hname').2.2
    | code hexadecimal' digits' => exact code_inj h h' (Option.some.inj hname').symm

/-- It is told apart where an item ends and which one it is. -/
theorem eq_of_written_append {item item' : Item} (h : item.isWellFormed = true)
    (h' : item'.isWellFormed = true) {r r' : List Char}
    (heq : item.written ++ r = item'.written ++ r') : item = item' ∧ r = r' := by
  cases hname : item.name? with
  | none =>
    obtain ⟨c, hc, rfl⟩ := exists_plain_of_name? h hname
    cases hname' : item'.name? with
    | none =>
      obtain ⟨c', -, rfl⟩ := exists_plain_of_name? h' hname'
      obtain ⟨rfl, rfl⟩ := List.cons.inj heq
      exact ⟨rfl, rfl⟩
    | some name' =>
      rw [written_of_name? hname'] at heq
      exact absurd (List.cons.inj heq).1 hc
  | some name =>
    rw [written_of_name? hname] at heq
    cases hname' : item'.name? with
    | none =>
      obtain ⟨c', hc', rfl⟩ := exists_plain_of_name? h' hname'
      exact absurd (List.cons.inj heq).1.symm hc'
    | some name' =>
      rw [written_of_name? hname'] at heq
      have hrest : name ++ ';' :: r = name' ++ ';' :: r' := by simpa using heq
      have hsplit := congrArg (Text.splitFirst? ';') hrest
      rw [Text.splitFirst?_append_cons (semicolon_notMem_name h hname),
        Text.splitFirst?_append_cons (semicolon_notMem_name h' hname')] at hsplit
      obtain ⟨rfl, rfl⟩ := Prod.mk.inj (Option.some.inj hsplit)
      exact ⟨eq_of_name? h h' hname hname', rfl⟩

end Item

/-- The text that items are written as stands for what they mean. -/
theorem Items.unescape?_written {items : Items} (h : items.isWellFormed = true) :
    unescape? items.written = some items.resolved := by
  rw [unescape?]
  induction items with
  | nil => rfl
  | cons item items ih =>
    obtain ⟨hitem, hitems⟩ := List.forall_mem_cons.1 (List.all_eq_true.1 h)
    have hwritten : written (item :: items) = item.written ++ written items := rfl
    rw [hwritten, Item.unescapeFrom?_written hitem, ih (List.all_eq_true.2 hitems)]
    rfl

theorem Items.written_eq_nil_iff {items : Items} : items.written = [] ↔ items = [] := by
  cases items with
  | nil => exact iff_of_true rfl rfl
  | cons item items =>
    have hne := Item.written_ne_nil item
    have hwritten : written (item :: items) = item.written ++ written items := rfl
    simp [hwritten, hne]

/-- No two ways to mean something are written alike. -/
theorem Items.eq_of_written {items items' : Items} (h : items.isWellFormed = true)
    (h' : items'.isWellFormed = true) (heq : items.written = items'.written) : items = items' := by
  induction items generalizing items' with
  | nil =>
    exact (written_eq_nil_iff.1 heq.symm).symm
  | cons item items ih =>
    cases items' with
    | nil => exact written_eq_nil_iff.1 heq
    | cons item' items' =>
      obtain ⟨hitem, hitems⟩ := List.forall_mem_cons.1 (List.all_eq_true.1 h)
      obtain ⟨hitem', hitems'⟩ := List.forall_mem_cons.1 (List.all_eq_true.1 h')
      obtain ⟨rfl, hrest⟩ := Item.eq_of_written_append hitem hitem' heq
      rw [ih (List.all_eq_true.2 hitems) (List.all_eq_true.2 hitems') hrest]

theorem Items.lt_notMem_written {items : Items} (h : items.isWellFormed = true) :
    '<' ∉ items.written := by
  intro hmem
  obtain ⟨item, hitem, hlt⟩ := List.mem_flatMap.1 hmem
  exact Item.lt_notMem_written (List.all_eq_true.1 h item hitem) hlt

theorem Items.normalized_eq_nil_iff {items : Items} : items.normalized = [] ↔ items = [] := by
  constructor
  · intro h
    fun_induction normalized items with
    | case1 => rfl
    | case2 c more hfeed ih =>
      -- What stands behind a carriage return that is dropped is a line feed, so not nothing.
      rw [ih h] at hfeed
      cases hfeed.2
    | case3 c more hfeed ih => cases h
    | case4 item more hitem ih => cases h
  · rintro rfl
    rfl

/-! ### Tags -/

/-- A character that ends a name in a tag, or that no name has. -/
def isTagMark (c : Char) : Bool :=
  isSpace c || ['<', '>', '/', '=', '"', '\'', '!', '?', '&'].contains c

/-- Whether a text may be a name without a colon. -/
def isSimpleName (s : List Char) : Bool := !s.isEmpty && s.all fun c => !isTagMark c && c ≠ ':'

/-- A name with the prefix that it may have. -/
structure QName where
  qualifier : Option (List Char)
  base : List Char
deriving DecidableEq

namespace QName

def written (name : QName) : List Char :=
  match name.qualifier with
  | none => name.base
  | some qualifier => qualifier ++ ':' :: name.base

def isWellFormed (name : QName) : Bool := name.qualifier.all isSimpleName && isSimpleName name.base

end QName

/-- An attribute with the white space around it. -/
structure WrittenAttribute where
  space : List Char
  name : QName
  before : List Char
  behind : List Char
  quote : Char
  value : Items
deriving DecidableEq

namespace WrittenAttribute

def written (a : WrittenAttribute) : List Char :=
  a.space ++ (a.name.written ++ (a.before ++ '=' :: (a.behind ++
    a.quote :: (a.value.written ++ [a.quote]))))

/-- The prefix that an attribute declares; the default namespace has an empty one. -/
def declared? (a : WrittenAttribute) : Option (List Char) :=
  match a.name.qualifier with
  | none => if a.name.base = "xmlns".toList then some [] else none
  | some qualifier => if qualifier = "xmlns".toList then some a.name.base else none

/-- The reserved prefixes and namespaces are left as they are. -/
def keepsReserved (a : WrittenAttribute) : Bool :=
  match a.declared? with
  | none => true
  | some [] => true
  | some declared =>
    if declared = "xml".toList then a.value.normalized = xmlNamespace
    else declared ≠ "xmlns".toList && a.value.normalized ≠ xmlNamespace
      && a.value.normalized ≠ xmlnsNamespace

def isWellFormed (a : WrittenAttribute) : Bool :=
  !a.space.isEmpty && a.space.all isSpace && a.name.isWellFormed && a.before.all isSpace
    && a.behind.all isSpace && ['"', '\''].contains a.quote && a.value.isWellFormed
    && !a.value.written.contains a.quote && a.keepsReserved

end WrittenAttribute

/-- A tag that opens an element. -/
structure OpenTag where
  name : QName
  attributes : List WrittenAttribute
  trail : List Char
deriving DecidableEq

namespace OpenTag

/-- What stands behind the name. -/
def rest (tag : OpenTag) : List Char := tag.attributes.flatMap (·.written) ++ tag.trail

/-- What stands between the brackets. -/
def content (tag : OpenTag) : List Char := tag.name.written ++ tag.rest

def isWellFormed (tag : OpenTag) : Bool :=
  tag.name.isWellFormed && tag.attributes.all (·.isWellFormed) && tag.trail.all isSpace

end OpenTag

/-! ### Elements -/

/-- What stands between the tags of an element: text, and elements with text before them. -/
inductive Body where
  | text (items : Items)
  /-- An element that is closed by its own tag. -/
  | empty (before : Items) (tag : OpenTag) (more : Body)
  /-- An element with a body; `trail` is the white space of its end tag. -/
  | element (before : Items) (tag : OpenTag) (inside : Body) (trail : List Char) (more : Body)

/-- The tag that closes an element. -/
def endTag (name trail : List Char) : List Char := '<' :: '/' :: (name ++ (trail ++ ['>']))

namespace Body

def written : Body → List Char
  | text items => items.written
  | empty before tag more => before.written ++ '<' :: (tag.content ++ '/' :: '>' :: more.written)
  | element before tag inside trail more =>
    before.written ++ '<' :: (tag.content ++ '>' :: (inside.written ++
      (endTag tag.name.written trail ++ more.written)))

def isWellFormed : Body → Bool
  | text items => items.isWellFormed
  | empty before tag more => before.isWellFormed && tag.isWellFormed && more.isWellFormed
  | element before tag inside trail more =>
    before.isWellFormed && tag.isWellFormed && inside.isWellFormed && trail.all isSpace
      && more.isWellFormed

/-- The elements that stand directly in a body, each with its own body. -/
def children : Body → List (OpenTag × Body)
  | text _ => []
  | empty _ tag more => (tag, text []) :: more.children
  | element _ tag inside _ more => (tag, inside) :: more.children

/-- The tags of all elements, however deep they stand. -/
def tags : Body → List OpenTag
  | text _ => []
  | empty _ tag more => tag :: more.tags
  | element _ tag inside _ more => tag :: (inside.tags ++ more.tags)

/-- The text of a body without elements. -/
def onlyText : Body → Items
  | text items => items
  | _ => []

def isText : Body → Bool
  | text _ => true
  | _ => false

variable {before : Items} {tag : OpenTag} {inside more : Body} {trail : List Char}

theorem isWellFormed_empty_iff :
    (empty before tag more).isWellFormed = true ↔
      before.isWellFormed = true ∧ tag.isWellFormed = true ∧ more.isWellFormed = true := by
  simp [isWellFormed, and_assoc]

theorem isWellFormed_element_iff :
    (element before tag inside trail more).isWellFormed = true ↔
      before.isWellFormed = true ∧ tag.isWellFormed = true ∧ inside.isWellFormed = true ∧
        trail.all isSpace = true ∧ more.isWellFormed = true := by
  simp [isWellFormed, and_assoc]

theorem written_empty_append (before : Items) (tag : OpenTag) (more : Body) (r : List Char) :
    (empty before tag more).written ++ r =
      before.written ++ '<' :: (tag.content ++ '/' :: '>' :: (more.written ++ r)) := by
  simp [written]

theorem written_element_append (before : Items) (tag : OpenTag) (inside : Body)
    (trail : List Char) (more : Body) (r : List Char) :
    (element before tag inside trail more).written ++ r =
      before.written ++ '<' :: (tag.content ++ '>' :: (inside.written ++
        (endTag tag.name.written trail ++ (more.written ++ r)))) := by
  simp [written]

end Body

/-! ### Documents -/

/-- Markup that may stand around the root. -/
inductive Aside where
  | comment (body : List Char)
  | instruction (body : List Char)
  | doctype (body : List Char)

namespace Aside

/-- What a document type begins with. -/
def doctypeLead : List Char := ['!', 'D', 'O', 'C', 'T', 'Y', 'P', 'E']

/-- What stands between the brackets. -/
def content : Aside → List Char
  | comment body => '!' :: '-' :: '-' :: (body ++ ['-', '-'])
  | instruction body => '?' :: (body ++ ['?'])
  | doctype body => doctypeLead ++ body

/-- In a document type a bracket closes only where one is open. -/
def IsWellFormed : Aside → Prop
  | comment body => ¬ ['-', '-'] <:+: body
  | instruction body => ¬ ['?', '>'] <:+: '?' :: body
  | doctype body => (∀ a b, body = a ++ '>' :: b → a.count '>' < a.count '<') ∧
      body.count '<' = body.count '>' ∧ body.all isSpace = false

end Aside

/-- Markup, with white space before each piece of it and at the end. -/
structure Surroundings where
  asides : List (List Char × Aside)
  trail : List Char

namespace Surroundings

def written (s : Surroundings) : List Char :=
  s.asides.flatMap (fun a => a.1 ++ '<' :: (a.2.content ++ ['>'])) ++ s.trail

def IsWellFormed (s : Surroundings) : Prop :=
  (∀ a ∈ s.asides, a.1.all isSpace = true ∧ a.2.IsWellFormed) ∧ s.trail.all isSpace = true

end Surroundings

/-- The root of a document, as it is written. -/
inductive Root where
  | empty (tag : OpenTag)
  | element (tag : OpenTag) (inside : Body) (trail : List Char)

namespace Root

def tag : Root → OpenTag
  | empty tag => tag
  | element tag _ _ => tag

def inside : Root → Body
  | empty _ => .text []
  | element _ inside _ => inside

def written : Root → List Char
  | empty tag => '<' :: (tag.content ++ ['/', '>'])
  | element tag inside trail =>
    '<' :: (tag.content ++ '>' :: (inside.written ++ endTag tag.name.written trail))

def isWellFormed : Root → Bool
  | empty tag => tag.isWellFormed
  | element tag inside trail => tag.isWellFormed && inside.isWellFormed && trail.all isSpace

end Root

structure Document where
  /-- Whether the text begins with a byte order mark. -/
  marked : Bool
  before : Surroundings
  root : Root
  behind : Surroundings

namespace Document

def written (d : Document) : List Char :=
  (if d.marked then ['\uFEFF'] else []) ++
    (d.before.written ++ (d.root.written ++ d.behind.written))

structure IsWellFormed (d : Document) : Prop where
  before : d.before.IsWellFormed
  root : d.root.isWellFormed = true
  behind : d.behind.IsWellFormed

end Document

/-! ### Namespaces -/

/-- Whether no two of some values mean one namespace and are written differently. -/
def WrittenAlike (values : List Items) : Prop :=
  ∀ v ∈ values, ∀ w ∈ values, v.normalized = w.normalized → v.written = w.written

/-- The declarations in force, innermost first, with the values that are written. -/
abbrev Declarations := List (List Char × Items)

namespace Declarations

/-- The declarations in force outside of every element. -/
def outermost : Declarations :=
  [("xmlns".toList, xmlnsNamespace.map .plain), ("xml".toList, xmlNamespace.map .plain)]

/-- Adds the declaration of an attribute.  That of `xml` is in force anyway. -/
def add (known : Declarations) (a : WrittenAttribute) : Declarations :=
  match a.declared? with
  | none => known
  | some declared => if declared = "xml".toList then known else (declared, a.value) :: known

/-- The declarations in force inside of a tag. -/
def inside (known : Declarations) (tag : OpenTag) : Declarations := tag.attributes.foldl add known

/-- The namespace of an element: the value of the innermost declaration of its prefix.  An empty
value is no namespace. -/
def namespaceOf (known : Declarations) (name : QName) : Option (List Char) :=
  ((known.lookup (name.qualifier.getD [])).map Items.normalized).filter (!·.isEmpty)

end Declarations

namespace Document

/-- All elements of a document. -/
def tags (d : Document) : List OpenTag := d.root.tag :: d.root.inside.tags

/-- The values of all declarations of a document, and those of the reserved prefixes. -/
def namespaceValues (d : Document) : List Items :=
  Declarations.outermost.map Prod.snd ++
    d.tags.flatMap fun tag => (tag.attributes.filter (·.declared?.isSome)).map (·.value)

/-- Whether each namespace is written in the same way wherever it is declared. -/
def WritesNamespacesAlike (d : Document) : Prop := WrittenAlike d.namespaceValues

end Document

end ReleaseGap.Xml
