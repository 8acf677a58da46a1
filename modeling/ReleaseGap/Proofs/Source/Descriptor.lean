import Mathlib.Data.List.Find
import ReleaseGap.Proofs.Xml.Declarations
import ReleaseGap.Source.Descriptor

/-!
# The version of a descriptor

The reader of descriptors follows events with a count of the open elements.  Below the children of
the root nothing changes its place for good: each element takes it one deeper and back.  Among the
children it stops at the text of the first `version` in the namespace of the root.  The namespaces
are compared as they are written, so that one namespace written in two ways counts as two.
-/
namespace ReleaseGap.Descriptor

open Xml

/-! ### Text -/

theorem isBlank_of_isSpace {c : Char} (h : isSpace c = true) : Text.isBlank c = true := by
  simp only [isSpace, Bool.or_eq_true, decide_eq_true_eq] at h
  obtain ((rfl | rfl) | rfl) | rfl := h <;> decide

/-- The text of character data without the white space at its ends. -/
def kept (raw : List Char) : List Char :=
  ((raw.dropWhile isSpace).reverse.dropWhile isSpace).reverse

theorem exists_spaces_around_kept (raw : List Char) :
    ∃ front back : List Char, raw = front ++ (kept raw ++ back) ∧
      (∀ c ∈ front, isSpace c = true) ∧ ∀ c ∈ back, isSpace c = true := by
  let behind := (raw.dropWhile isSpace).reverse
  refine ⟨raw.takeWhile isSpace, (behind.takeWhile isSpace).reverse, ?_,
    fun c hc => List.mem_takeWhile_imp hc, fun c hc => ?_⟩
  · have hbehind : kept raw ++ (behind.takeWhile isSpace).reverse = raw.dropWhile isSpace := by
      rw [kept, ← List.reverse_append, List.takeWhile_append_dropWhile, List.reverse_reverse]
    rw [hbehind, List.takeWhile_append_dropWhile]
  · exact List.mem_takeWhile_imp (List.mem_reverse.1 hc)

theorem isEmpty_kept (raw : List Char) : (kept raw).isEmpty = raw.all isSpace := by
  rw [Bool.eq_iff_iff, List.isEmpty_iff, List.all_eq_true]
  constructor
  · intro hkept
    obtain ⟨front, back, hraw, hfront, hback⟩ := exists_spaces_around_kept raw
    rw [hraw, hkept, List.nil_append]
    exact List.forall_mem_append.2 ⟨hfront, hback⟩
  · intro hall
    rw [kept, List.dropWhile_eq_nil_iff.2 hall]
    rfl

theorem unescapeFrom?_spaces {spaces : List Char} (h : ∀ c ∈ spaces, isSpace c = true)
    (r : List Char) :
    unescapeFrom? none (spaces ++ r) = (unescapeFrom? none r).map (spaces ++ ·) := by
  induction spaces with
  | nil => simp
  | cons c spaces ih =>
    obtain ⟨hc, hspaces⟩ := List.forall_mem_cons.1 h
    have hamp : c ≠ '&' := by
      rintro rfl
      cases hc
    rw [List.cons_append, unescapeFrom?]
    simp only [if_neg hamp, ih hspaces, Option.map_map]
    rfl

/-- White space ends no reference. -/
theorem unescapeFrom?_some_spaces {spaces : List Char} (h : ∀ c ∈ spaces, isSpace c = true)
    (name : List Char) : unescapeFrom? (some name) spaces = none := by
  induction spaces generalizing name with
  | nil => rfl
  | cons c spaces ih =>
    obtain ⟨hc, hspaces⟩ := List.forall_mem_cons.1 h
    have hsemi : c ≠ ';' := by
      rintro rfl
      cases hc
    have hamp : c ≠ '&' := by
      rintro rfl
      cases hc
    rw [unescapeFrom?, if_neg hsemi, if_neg hamp, ih hspaces]

theorem unescapeFrom?_append_spaces {spaces : List Char} (h : ∀ c ∈ spaces, isSpace c = true)
    {name : Option (List Char)} {s t : List Char}
    (ht : unescapeFrom? name (s ++ spaces) = some t) :
    ∃ t', unescapeFrom? name s = some t' ∧ t = t' ++ spaces := by
  induction s generalizing name t with
  | nil =>
    cases name with
    | none =>
      have hspaces := unescapeFrom?_spaces h []
      rw [List.append_nil] at hspaces
      rw [List.nil_append, hspaces] at ht
      exact ⟨[], rfl, by simpa using (Option.some.inj ht).symm⟩
    | some n =>
      rw [List.nil_append, unescapeFrom?_some_spaces h] at ht
      cases ht
  | cons c s ih =>
    cases name with
    | none =>
      rw [List.cons_append, unescapeFrom?] at ht
      rw [unescapeFrom?]
      split at ht
      · rename_i hc
        rw [if_pos hc]
        exact ih ht
      · rename_i hc
        obtain ⟨u, hu, rfl⟩ := Option.map_eq_some_iff.1 ht
        obtain ⟨t', ht', rfl⟩ := ih hu
        rw [if_neg hc, ht']
        exact ⟨c :: t', rfl, rfl⟩
    | some n =>
      rw [List.cons_append, unescapeFrom?] at ht
      rw [unescapeFrom?]
      split at ht
      · rename_i hc
        obtain ⟨d, hd, ht⟩ := Option.bind_eq_some_iff.1 ht
        obtain ⟨u, hu, ht⟩ := Option.bind_eq_some_iff.1 ht
        obtain rfl := Option.some.inj ht
        obtain ⟨t', ht', rfl⟩ := ih hu
        rw [if_pos hc, hd, ht']
        exact ⟨d :: t', rfl, rfl⟩
      · rename_i hc
        rw [if_neg hc]
        split at ht
        · cases ht
        · rename_i hamp
          rw [if_neg hamp]
          exact ih ht

/-- White space at the ends of character data is white space at the ends of the text. -/
theorem unescape?_kept {raw t : List Char} (h : unescape? raw = some t) :
    ∃ t', unescape? (kept raw) = some t' ∧ Text.trim t' = Text.trim t := by
  obtain ⟨front, back, hraw, hfront, hback⟩ := exists_spaces_around_kept raw
  rw [unescape?, hraw, unescapeFrom?_spaces hfront] at h
  obtain ⟨u, hu, rfl⟩ := Option.map_eq_some_iff.1 h
  obtain ⟨t', ht', rfl⟩ := unescapeFrom?_append_spaces hback hu
  refine ⟨t', ht', ?_⟩
  rw [Text.trim_append_of_blank_front fun c hc => isBlank_of_isSpace (hfront c hc),
    Text.trim_append_of_blank fun c hc => isBlank_of_isSpace (hback c hc)]

/-! ### The version that is meant -/

/-- Whether a child of the root, in whose body `known` and its own declarations are in force, is a
`version` in a namespace with a text that is more than white space. -/
def declaresVersion (namespaceOf : Declarations → QName → Option (List Char))
    (known : Declarations) (ns : Option (List Char)) (child : OpenTag × Body) : Bool :=
  child.1.name.base = "version".toList ∧ namespaceOf (known.inside child.1) child.1.name = ns ∧
    child.2.onlyText.written.all isSpace = false

/-- Whether the children in a body that are called `version` hold nothing but text. -/
def VersionsHoldText (body : Body) : Prop :=
  ∀ child ∈ body.children, child.1.name.base = "version".toList → child.2.isText = true

/-- The text of the first version among the children of the root, with its references resolved and
without the white space at its ends. -/
def versionBy (namespaceOf : Declarations → QName → Option (List Char)) (root : Root) :
    Option String :=
  let known := Declarations.outermost.inside root.tag
  let isVersion := declaresVersion namespaceOf known (namespaceOf known root.tag.name)
  (root.inside.children.find? isVersion).map fun child =>
    String.ofList (Text.trim child.2.onlyText.resolved)

/-- The version of a document. -/
def versionOf (d : Document) : Option String := versionBy Declarations.namespaceOf d.root

/-! ### Following events -/

/-- What the events of a reading lead to from a place on. -/
def Place.follow (p : Place) (reading : Reading) : Option (Option String) :=
  versionFrom reading.complete p (trimTexts reading.events)

/-- What a step leads to when a reading follows. -/
def Progress.next (reading : Reading) : Progress → Option (Option String)
  | .at p => p.follow reading
  | .found version => some (some version)
  | .malformed => none

namespace Place

variable {p : Place} {reading : Reading}

theorem versionFrom_cons (complete : Bool) (p : Place) (e : Event) (events : List Event) :
    versionFrom complete p (e :: events) = match p.step e with
      | .at p => versionFrom complete p events
      | .found version => some (some version)
      | .malformed => none := rfl

theorem follow_after {e : Event} (he : ∀ raw, e ≠ .text raw) :
    p.follow (reading.after e) = (p.step e).next reading := by
  have htrim : trimTexts (e :: reading.events) = e :: trimTexts reading.events := by
    cases e with
    | text raw => exact absurd rfl (he raw)
    | start | empty | finish | cdata | comment | instruction | doctype => rfl
  rw [follow, Reading.after]
  dsimp only
  rw [htrim, versionFrom_cons]
  cases p.step e <;> rfl

theorem follow_text (raw : List Char) :
    p.follow (reading.after (.text raw)) =
      if raw.all isSpace then p.follow reading
      else (p.step (.text (kept raw))).next reading := by
  have htrim : trimTexts (.text raw :: reading.events) =
      if raw.all isSpace then trimTexts reading.events
      else .text (kept raw) :: trimTexts reading.events := by
    have hkept := isEmpty_kept raw
    by_cases hspace : raw.all isSpace = true
    · rw [if_pos hspace]
      exact List.filterMap_cons_none (if_pos (hkept.trans hspace))
    · rw [if_neg hspace]
      exact List.filterMap_cons_some (if_neg (hkept ▸ hspace))
  rw [follow, Reading.after]
  dsimp only
  rw [htrim]
  split
  · rfl
  · rw [versionFrom_cons]
    cases p.step (.text (kept raw)) <;> rfl

/-- Text outside of a version does not count. -/
theorem follow_readFrom_text (hp : p.inVersion = false) {s : List Char} (hs : '<' ∉ s)
    (opened : List (List Char)) (r : List Char) :
    p.follow (readFrom opened (s ++ '<' :: r)) = p.follow (readFrom opened ('<' :: r)) := by
  by_cases hne : s = []
  · rw [hne, List.nil_append]
  · have hstep : p.step (.text (kept s)) = .at p := by simp [step, hp]
    rw [readFrom_text hne hs, follow_text, hstep]
    split <;> rfl

/-! ### Elements -/

variable {known : Declarations} {tag : OpenTag}

/-- The place inside of an element. -/
def below (p : Place) (known : Declarations) (tag : OpenTag) (inVersion : Bool) : Place :=
  { p with scopes := (known.inside tag).raw :: p.scopes, depth := p.depth + 1, inVersion }

@[simp] theorem scope_below (inVersion : Bool) :
    (p.below known tag inVersion).scope = (known.inside tag).raw := rfl

@[simp] theorem depth_below (inVersion : Bool) :
    (p.below known tag inVersion).depth = p.depth + 1 := rfl

theorem enter_eq (hscope : p.scope = known.raw) (hp : p.inVersion = false)
    (h : tag.isWellFormed = true) (hxml : tag.WritesReserved) :
    p.enter tag.raw =
      if p.depth = 0 then
        .at { p.below known tag false with
          rootNamespace := (known.inside tag).writtenNamespaceOf tag.name }
      else .at (p.below known tag (p.depth = 1 ∧ tag.name.base = "version".toList ∧
        (known.inside tag).writtenNamespaceOf tag.name = p.rootNamespace)) := by
  have hname := (OpenTag.isWellFormed_iff.1 h).1
  rw [enter, hscope, Declarations.enter?_raw h hxml]
  simp only [OpenTag.raw, Declarations.resolve_raw _ hname, QName.localName_written hname,
    Nat.reduceEqDiff, Nat.add_eq_right, below, hp]
  split
  · rfl
  · split
    · rename_i hversion
      rw [decide_eq_true hversion]
    · rename_i hversion
      rw [decide_eq_false hversion]

/-- A tag that is closed at once leads nowhere. -/
theorem follow_closed (hscope : p.scope = known.raw) (h : tag.isWellFormed = true)
    (hxml : tag.WritesReserved) (opened : List (List Char)) (r : List Char) :
    p.follow (readFrom opened ('<' :: (tag.content ++ '/' :: '>' :: r))) =
      p.follow (readFrom opened r) := by
  have hstep : p.step (.empty tag.raw) = .at p := by
    rw [step, hscope, Declarations.enter?_raw h hxml]
    rfl
  rw [OpenTag.readFrom_closed h, follow_after (by simp), hstep]
  rfl

/-- The place behind the element that is left. -/
def leave (p : Place) : Place :=
  { p with scopes := p.scopes.tail, depth := p.depth - 1, inVersion := false }

/-- Behind an element the reader is where it was before. -/
theorem leave_below (hp : p.inVersion = false) (inVersion : Bool) :
    (p.below known tag inVersion).leave = p := by
  obtain ⟨scopes, depth, rootNamespace, inVersion⟩ := p
  obtain rfl : inVersion = false := hp
  rfl

theorem exists_endTag_append (name trail r : List Char) :
    ∃ s, endTag name trail ++ r = '<' :: s :=
  ⟨_, rfl⟩

theorem follow_endTag {name : QName} (h : name.isWellFormed = true) {trail : List Char}
    (htrail : trail.all isSpace = true) (opened : List (List Char)) (r : List Char) :
    p.follow (readFrom (name.written :: opened) (endTag name.written trail ++ r)) =
      p.leave.follow (readFrom opened r) := by
  rw [readFrom_endTag h htrail, follow_after (by simp)]
  rfl

/-- Below the children of the root nothing counts. -/
theorem follow_body_below {body : Body} (hbody : body.isWellFormed = true)
    (hxml : ∀ tag ∈ body.tags, tag.WritesReserved) (hdepth : 2 ≤ p.depth)
    (hp : p.inVersion = false) (hscope : p.scope = known.raw) (opened : List (List Char))
    (r : List Char) :
    p.follow (readFrom opened (body.written ++ '<' :: r)) =
      p.follow (readFrom opened ('<' :: r)) := by
  induction body generalizing p known opened r with
  | text items =>
    exact follow_readFrom_text hp (Items.lt_notMem_written hbody) opened r
  | empty before tag more ih =>
    obtain ⟨hbefore, htag, hmore⟩ := Body.isWellFormed_empty_iff.1 hbody
    obtain ⟨htagXml, hmoreXml⟩ := List.forall_mem_cons.1 hxml
    rw [Body.written_empty_append, follow_readFrom_text hp (Items.lt_notMem_written hbefore),
      follow_closed hscope htag htagXml]
    exact ih hmore hmoreXml hdepth hp hscope opened r
  | element before tag inside trail more ihInside ihMore =>
    obtain ⟨hbefore, htag, hinside, htrail, hmore⟩ := Body.isWellFormed_element_iff.1 hbody
    obtain ⟨htagXml, hrestXml⟩ := List.forall_mem_cons.1 hxml
    obtain ⟨hinsideXml, hmoreXml⟩ := List.forall_mem_append.1 hrestXml
    have hname := (OpenTag.isWellFormed_iff.1 htag).1
    have henter : p.enter tag.raw = .at (p.below known tag false) := by
      rw [enter_eq hscope hp htag htagXml, if_neg (by omega),
        decide_eq_false fun h => absurd h.1 (by omega)]
    have hinside : (p.below known tag false).follow (readFrom (tag.name.written :: opened)
        (inside.written ++ (endTag tag.name.written trail ++ (more.written ++ '<' :: r)))) =
          (p.below known tag false).follow (readFrom (tag.name.written :: opened)
            (endTag tag.name.written trail ++ (more.written ++ '<' :: r))) := by
      obtain ⟨close, hclose⟩ :=
        exists_endTag_append tag.name.written trail (more.written ++ '<' :: r)
      rw [hclose]
      exact ihInside hinside hinsideXml (Nat.le_succ_of_le hdepth) rfl rfl _ close
    rw [Body.written_element_append, follow_readFrom_text hp (Items.lt_notMem_written hbefore),
      OpenTag.readFrom_start htag, follow_after (by simp), step, henter, Progress.next, hinside,
      follow_endTag hname htrail, leave_below hp]
    exact ihMore hmore hmoreXml hdepth hp hscope opened r

/-! ### The children of the root -/

/-- Text in a version is the version, unless it is nothing but white space. -/
theorem follow_version_text (hp : p.inVersion = true) {items : Items}
    (h : items.isWellFormed = true) (opened : List (List Char)) (r : List Char) :
    p.follow (readFrom opened (items.written ++ '<' :: r)) =
      if items.written.all isSpace then p.follow (readFrom opened ('<' :: r))
      else some (some (String.ofList (Text.trim items.resolved))) := by
  by_cases hne : items.written = []
  · rw [hne, List.nil_append]
    exact (if_pos rfl).symm
  · obtain ⟨text, htext, htrim⟩ := unescape?_kept (Items.unescape?_written h)
    rw [readFrom_text hne (Items.lt_notMem_written h), follow_text]
    split
    · rfl
    · simp only [step, if_pos hp, htext, Progress.next, htrim]

/-- A child of the root is the version that is looked for, or it leads nowhere. -/
theorem follow_child (htag : tag.isWellFormed = true) (htagXml : tag.WritesReserved)
    {body : Body} (hbody : body.isWellFormed = true) (hxml : ∀ tag ∈ body.tags, tag.WritesReserved)
    (htext : tag.name.base = "version".toList → body.isText = true) {trail : List Char}
    (htrail : trail.all isSpace = true) (hdepth : p.depth = 1) (hp : p.inVersion = false)
    (hscope : p.scope = known.raw) (opened : List (List Char)) (r : List Char) :
    p.follow (readFrom opened ('<' :: (tag.content ++ '>' :: (body.written ++
        (endTag tag.name.written trail ++ r))))) =
      if declaresVersion Declarations.writtenNamespaceOf known p.rootNamespace (tag, body) then
        some (some (String.ofList (Text.trim body.onlyText.resolved)))
      else p.follow (readFrom opened r) := by
  have hname := (OpenTag.isWellFormed_iff.1 htag).1
  have hend (inVersion : Bool) : (p.below known tag inVersion).follow
      (readFrom (tag.name.written :: opened) (endTag tag.name.written trail ++ r)) =
        p.follow (readFrom opened r) := by
    rw [follow_endTag hname htrail, leave_below hp]
  obtain ⟨close, hclose⟩ := exists_endTag_append tag.name.written trail r
  rw [hclose] at hend ⊢
  rw [OpenTag.readFrom_start htag, follow_after (by simp), step,
    enter_eq hscope hp htag htagXml, if_neg (by omega), Progress.next]
  by_cases hversion : tag.name.base = "version".toList ∧
      (known.inside tag).writtenNamespaceOf tag.name = p.rootNamespace
  · obtain ⟨items, rfl⟩ : ∃ items, body = .text items := by
      have hbody := htext hversion.1
      cases body with
      | text items => exact ⟨items, rfl⟩
      | empty | element => cases hbody
    have hdeclares : declaresVersion Declarations.writtenNamespaceOf known p.rootNamespace
        (tag, .text items) = !items.written.all isSpace := by
      cases hspace : items.written.all isSpace <;>
        simp [declaresVersion, Body.onlyText, hversion, hspace]
    rw [decide_eq_true ⟨hdepth, hversion⟩, hdeclares, Body.written,
      follow_version_text rfl hbody, hend]
    cases items.written.all isSpace <;> rfl
  · have hdeclares : ¬declaresVersion Declarations.writtenNamespaceOf known p.rootNamespace
        (tag, body) = true := by
      rw [declaresVersion, decide_eq_true_eq, ← and_assoc]
      exact fun h => hversion h.1
    have hdeep : 2 ≤ (p.below known tag false).depth := by rw [depth_below, hdepth]
    rw [decide_eq_false fun h => hversion h.2, if_neg hdeclares,
      follow_body_below hbody hxml hdeep rfl (scope_below _), hend]

/-- Among the children of the root the first version is found. -/
theorem follow_body_root {body : Body} (hbody : body.isWellFormed = true)
    (hxml : ∀ tag ∈ body.tags, tag.WritesReserved) (hversions : VersionsHoldText body)
    (hdepth : p.depth = 1) (hp : p.inVersion = false) (hscope : p.scope = known.raw)
    (opened : List (List Char)) (r : List Char) :
    p.follow (readFrom opened (body.written ++ '<' :: r)) =
      match body.children.find?
          (declaresVersion Declarations.writtenNamespaceOf known p.rootNamespace) with
      | some child => some (some (String.ofList (Text.trim child.2.onlyText.resolved)))
      | none => p.follow (readFrom opened ('<' :: r)) := by
  induction body with
  | text items =>
    exact follow_readFrom_text hp (Items.lt_notMem_written hbody) opened r
  | empty before tag more ih =>
    obtain ⟨hbefore, htag, hmore⟩ := Body.isWellFormed_empty_iff.1 hbody
    obtain ⟨htagXml, hmoreXml⟩ := List.forall_mem_cons.1 hxml
    obtain ⟨-, hversions⟩ := List.forall_mem_cons.1 hversions
    have hdeclares : ¬declaresVersion Declarations.writtenNamespaceOf known p.rootNamespace
        (tag, .text []) = true := by
      simp [declaresVersion, Body.onlyText, Items.written]
    rw [Body.written_empty_append, follow_readFrom_text hp (Items.lt_notMem_written hbefore),
      follow_closed hscope htag htagXml, ih hmore hmoreXml hversions, Body.children,
      List.find?_cons_of_neg hdeclares]
  | element before tag inside trail more _ ihMore =>
    obtain ⟨hbefore, htag, hinside, htrail, hmore⟩ := Body.isWellFormed_element_iff.1 hbody
    obtain ⟨htagXml, hrestXml⟩ := List.forall_mem_cons.1 hxml
    obtain ⟨hinsideXml, hmoreXml⟩ := List.forall_mem_append.1 hrestXml
    obtain ⟨hversion, hversions⟩ := List.forall_mem_cons.1 hversions
    rw [Body.written_element_append, follow_readFrom_text hp (Items.lt_notMem_written hbefore),
      follow_child htag htagXml hinside hinsideXml hversion htrail hdepth hp hscope,
      ihMore hmore hmoreXml hversions, Body.children, List.find?_cons]
    cases declaresVersion Declarations.writtenNamespaceOf known p.rootNamespace (tag, inside) <;>
      rfl

/-! ### Around the root -/

theorem follow_aside {a : Aside} (h : a.IsWellFormed) (opened : List (List Char))
    (r : List Char) :
    p.follow (readFrom opened ('<' :: (a.content ++ '>' :: r))) = p.follow (readFrom opened r) := by
  rw [Aside.readFrom_aside h, follow_after (by cases a <;> simp [Aside.event])]
  cases a <;> rfl

theorem follow_asides (hp : p.inVersion = false) {asides : List (List Char × Aside)}
    (h : ∀ a ∈ asides, a.1.all isSpace = true ∧ a.2.IsWellFormed) (opened : List (List Char))
    (r : List Char) :
    p.follow (readFrom opened
        (asides.flatMap (fun a => a.1 ++ '<' :: (a.2.content ++ ['>'])) ++ r)) =
      p.follow (readFrom opened r) := by
  induction asides with
  | nil => rfl
  | cons a asides ih =>
    obtain ⟨⟨hspace, ha⟩, hasides⟩ := List.forall_mem_cons.1 h
    have htext : (a :: asides).flatMap (fun a => a.1 ++ '<' :: (a.2.content ++ ['>'])) ++ r =
        a.1 ++ '<' :: (a.2.content ++ '>' ::
          (asides.flatMap (fun a => a.1 ++ '<' :: (a.2.content ++ ['>'])) ++ r)) := by
      simp
    rw [htext, follow_readFrom_text hp (lt_notMem_of_spaces hspace), follow_aside ha, ih hasides]

/-- What stands before the root does not count. -/
theorem follow_before (hp : p.inVersion = false) {s : Surroundings} (h : s.IsWellFormed)
    (opened : List (List Char)) (r : List Char) :
    p.follow (readFrom opened (s.written ++ '<' :: r)) = p.follow (readFrom opened ('<' :: r)) := by
  rw [Surroundings.written, List.append_assoc, follow_asides hp h.1,
    follow_readFrom_text hp (lt_notMem_of_spaces h.2)]

/-- Behind the root there is no version. -/
theorem follow_behind (hp : p.inVersion = false) {s : Surroundings} (h : s.IsWellFormed)
    (opened : List (List Char)) : p.follow (readFrom opened s.written) = some none := by
  rw [Surroundings.written, follow_asides hp h.1]
  by_cases hempty : s.trail = []
  · rw [hempty, readFrom_nil]
    rfl
  · rw [readFrom_last hempty (lt_notMem_of_spaces h.2), follow_text, if_pos h.2]
    rfl

/-- A document from its root on. -/
theorem follow_root (hdepth : p.depth = 0) (hp : p.inVersion = false)
    (hscope : p.scope = Declarations.outermost.raw) {root : Root} (hroot : root.isWellFormed = true)
    (htagXml : root.tag.WritesReserved) (hxml : ∀ tag ∈ root.inside.tags, tag.WritesReserved)
    (hversions : VersionsHoldText root.inside) {behind : Surroundings}
    (hbehind : behind.IsWellFormed) (opened : List (List Char)) :
    p.follow (readFrom opened (root.written ++ behind.written)) =
      some (versionBy Declarations.writtenNamespaceOf root) := by
  obtain ⟨htag, hinside⟩ := Root.isWellFormed_parts hroot
  cases root with
  | empty tag =>
    dsimp only [Root.tag] at htag htagXml
    have htext : (Root.empty tag).written ++ behind.written =
        '<' :: (tag.content ++ '/' :: '>' :: behind.written) := by
      simp [Root.written]
    rw [htext, follow_closed hscope htag htagXml, follow_behind hp hbehind]
    rfl
  | element tag inside trail =>
    dsimp only [Root.tag, Root.inside] at htag hinside htagXml hxml hversions
    have htrail : trail.all isSpace = true := (Bool.and_eq_true_iff.1 hroot).2
    have hname := (OpenTag.isWellFormed_iff.1 htag).1
    have htext : (Root.element tag inside trail).written ++ behind.written =
        '<' :: (tag.content ++ '>' :: (inside.written ++
          (endTag tag.name.written trail ++ behind.written))) := by
      simp [Root.written]
    let known := Declarations.outermost.inside tag
    let within : Place :=
      { p.below Declarations.outermost tag false with
        rootNamespace := known.writtenNamespaceOf tag.name }
    have henter : p.enter tag.raw = .at within := by
      rw [enter_eq hscope hp htag htagXml, if_pos hdepth]
    have hend : within.follow (readFrom (tag.name.written :: opened)
        (endTag tag.name.written trail ++ behind.written)) = some none := by
      rw [follow_endTag hname htrail, follow_behind rfl hbehind]
    obtain ⟨close, hclose⟩ := exists_endTag_append tag.name.written trail behind.written
    rw [hclose] at htext hend
    have hwithin : within.depth = 1 := congrArg (· + 1) hdepth
    have hscope' : within.scope = known.raw := rfl
    rw [htext, OpenTag.readFrom_start htag, follow_after (by simp), step, henter, Progress.next,
      follow_body_root hinside hxml hversions hwithin rfl hscope', hend, versionBy]
    change _ = some ((inside.children.find? (declaresVersion Declarations.writtenNamespaceOf known
      (known.writtenNamespaceOf tag.name))).map _)
    cases inside.children.find? (declaresVersion Declarations.writtenNamespaceOf known
      (known.writtenNamespaceOf tag.name)) <;> rfl

end Place

/-! ### Documents -/

variable {d : Document}

/-- The version that is read is the one by the namespaces as they are written. -/
theorem version?_eq_versionBy (h : d.IsWellFormed) (hxml : ∀ tag ∈ d.tags, tag.WritesReserved)
    (hversions : VersionsHoldText d.root.inside) :
    version? (String.ofList d.written) =
      some (versionBy Declarations.writtenNamespaceOf d.root) := by
  have hread : version? (String.ofList d.written) = Place.follow {} (Xml.read d.written) := by
    rw [version?, String.toList_ofList]
    rfl
  have hscope : Place.scope {} = Declarations.outermost.raw := Declarations.raw_outermost.symm
  obtain ⟨htagXml, hinsideXml⟩ := List.forall_mem_cons.1 hxml
  obtain ⟨r, hroot⟩ := d.root.exists_written_eq_cons
  have hfollow := Place.follow_root rfl rfl hscope h.root htagXml hinsideXml hversions h.behind []
  rw [hread, Document.read_written h.before, ← hfollow, hroot, List.cons_append]
  exact Place.follow_before rfl h.before [] _

/-- Where namespaces are written alike it does not matter that they are compared so. -/
theorem versionBy_written (h : d.IsWellFormed) (halike : d.WritesNamespacesAlike) :
    versionBy Declarations.writtenNamespaceOf d.root = versionOf d := by
  let known := Declarations.outermost.inside d.root.tag
  have hknown : ∀ v ∈ known.map Prod.snd, v ∈ d.namespaceValues :=
    Document.mem_namespaceValues_of_inside
      (fun _ hv => Document.mem_namespaceValues_of_outermost hv) List.mem_cons_self
  have hdeclares : ∀ child ∈ d.root.inside.children,
      declaresVersion Declarations.writtenNamespaceOf known
          (known.writtenNamespaceOf d.root.tag.name) child =
        declaresVersion Declarations.namespaceOf known (known.namespaceOf d.root.tag.name)
          child := by
    intro child hchild
    have htag : child.1 ∈ d.tags :=
      List.mem_cons_of_mem _ (Body.mem_tags_of_mem_children child hchild)
    have hsame := Declarations.writtenNamespaceOf_eq_iff halike
      (Document.isWellFormed_of_mem_namespaceValues h)
      (Document.mem_namespaceValues_of_inside hknown htag) hknown child.1.name d.root.tag.name
    simp only [declaresVersion, hsame, known]
  rw [versionBy, versionOf, versionBy]
  exact congrArg _ (List.find?_congr hdeclares)

/-- The version of a document is read, where no namespace is written in two ways. -/
theorem version?_written (h : d.IsWellFormed) (hversions : VersionsHoldText d.root.inside)
    (halike : d.WritesNamespacesAlike) :
    version? (String.ofList d.written) = some (versionOf d) :=
  (version?_eq_versionBy h (Document.writesReserved h halike) hversions).trans
    (congrArg some (versionBy_written h halike))

/-- A tag without attributes. -/
def plainTag (base : String) : OpenTag := ⟨⟨none, base.toList⟩, [], []⟩

/-- A declaration of a namespace in double quotes. -/
def declaration (qualifier : Option (List Char)) (base : String) (value : Items) :
    WrittenAttribute :=
  ⟨[' '], ⟨qualifier, base.toList⟩, [], [], '"', value⟩

/-- A descriptor with a parent that has a version of its own. -/
def inherited : Document where
  marked := false
  before := ⟨[([], .comment [' ', 'p', 'o', 'm', ' '])], ['\n']⟩
  root := .element
    ⟨⟨none, "project".toList⟩, [declaration none "xmlns" ("urn:pom".toList.map .plain)], []⟩
    (.element [] (plainTag "parent")
      (.element [] (plainTag "version") (.text ("3.4".toList.map .plain)) [] (.text [])) []
      (.element [] (plainTag "version")
        (.text (" 1.0".toList.map .plain ++ .code false ['4', '5'] :: "rc\n".toList.map .plain)) []
        (.text []))) []
  behind := ⟨[], ['\n']⟩

theorem version?_inherited :
    inherited.IsWellFormed ∧ VersionsHoldText inherited.root.inside ∧
      inherited.WritesNamespacesAlike ∧
      version? (String.ofList inherited.written) = some (some "1.0-rc") := by
  have hbefore : inherited.before.IsWellFormed := by
    refine ⟨List.forall_mem_singleton.2 ⟨rfl, ?_⟩, by decide⟩
    rw [Aside.IsWellFormed]
    decide
  have hbehind : inherited.behind.IsWellFormed := ⟨by simp [inherited], by decide⟩
  have hwf : inherited.IsWellFormed := ⟨hbefore, by decide, hbehind⟩
  have hversions : VersionsHoldText inherited.root.inside := by
    unfold VersionsHoldText
    decide
  have halike : inherited.WritesNamespacesAlike := by
    unfold Document.WritesNamespacesAlike WrittenAlike
    decide
  have hversion : versionOf inherited = some "1.0-rc" := by decide
  exact ⟨hwf, hversions, halike,
    (version?_written hwf hversions halike).trans (congrArg some hversion)⟩

/-- One namespace is written in two ways: with the reference `&amp;` and with `&#38;`. -/
def twoSpellings : Document where
  marked := false
  before := ⟨[], []⟩
  root := .element
    ⟨⟨none, "project".toList⟩,
      [declaration none "xmlns" ("urn:a".toList.map .plain ++ .entity '&' :: [.plain 'b']),
        declaration (some "xmlns".toList) "x"
          ("urn:a".toList.map .plain ++ .code false ['3', '8'] :: [.plain 'b'])], []⟩
    (.element [] ⟨⟨some ['x'], "version".toList⟩, [], []⟩ (.text ("1.0".toList.map .plain)) []
      (.text [])) []
  behind := ⟨[], []⟩

/-- A version is missed where its namespace is written in another way than that of the root. -/
theorem version?_twoSpellings :
    twoSpellings.IsWellFormed ∧ VersionsHoldText twoSpellings.root.inside ∧
      versionOf twoSpellings = some "1.0" ∧
      version? (String.ofList twoSpellings.written) = some none := by
  have haround : Surroundings.IsWellFormed ⟨[], []⟩ := ⟨by simp, by decide⟩
  have hwf : twoSpellings.IsWellFormed := ⟨haround, by decide, haround⟩
  have hversions : VersionsHoldText twoSpellings.root.inside := by
    unfold VersionsHoldText
    decide
  have hxml : ∀ tag ∈ twoSpellings.tags, tag.WritesReserved := by
    unfold OpenTag.WritesReserved
    decide
  have hnone : versionBy Declarations.writtenNamespaceOf twoSpellings.root = none := by decide
  exact ⟨hwf, hversions, by decide,
    (version?_eq_versionBy hwf hxml hversions).trans (congrArg some hnone)⟩

end ReleaseGap.Descriptor
