import ReleaseGap.Proofs.Xml.Tags

/-!
# Namespaces as they are written

The reader keeps the values of declarations as they are written and compares them so.  Where each
namespace is written in the same way wherever it is declared, the names that it takes for those of
one namespace are the names of one namespace.
-/
namespace ReleaseGap.Xml

theorem Items.written_plain (s : List Char) : Items.written (s.map .plain) = s := by
  rw [written, List.flatMap_map]
  exact List.flatMap_singleton' s

/-- A namespace in which every character is written as itself. -/
theorem Items.normalized_of_written {items : Items} {ns : List Char}
    (hitems : items.isWellFormed = true)
    (hplain : Items.isWellFormed (ns.map .plain) = true)
    (hns : Items.normalized (ns.map .plain) = ns) (h : items.written = ns) :
    items.normalized = ns := by
  rw [eq_of_written hitems hplain (h.trans (written_plain ns).symm), hns]

namespace Declarations

/-- The declarations as the reader keeps them. -/
def raw (known : Declarations) : Scope := known.map fun d => (d.1, d.2.written)

theorem raw_outermost : outermost.raw = Scope.outermost := by
  simp only [raw, outermost, List.map_cons, List.map_nil, Items.written_plain]
  rfl

theorem lookup_raw (known : Declarations) (declared : List Char) :
    known.raw.lookup declared = (known.lookup declared).map Items.written := by
  induction known with
  | nil => rfl
  | cons d known ih =>
    rw [raw, List.map_cons, List.lookup_cons, List.lookup_cons, ← raw, ih]
    split <;> rfl

/-- The namespace of an element as it is written where it is declared. -/
def writtenNamespaceOf (known : Declarations) (name : QName) : Option (List Char) :=
  ((known.lookup (name.qualifier.getD [])).map Items.written).filter (!·.isEmpty)

theorem resolve_raw (known : Declarations) {name : QName} (h : name.isWellFormed = true) :
    known.raw.resolve name.written = known.writtenNamespaceOf name := by
  rw [Scope.resolve, QName.namePrefix?_written h, writtenNamespaceOf, ← lookup_raw]
  cases hq : name.qualifier with
  | none => rfl
  | some qualifier =>
    obtain ⟨c, r, rfl⟩ := List.exists_cons_of_ne_nil
      (QName.isSimpleName_iff.1 (QName.isSimpleName_qualifier h hq)).1
    rfl

theorem mem_values_of_lookup {known : Declarations} {declared : List Char} {v : Items}
    (h : known.lookup declared = some v) : v ∈ known.map Prod.snd := by
  induction known with
  | nil => cases h
  | cons d known ih =>
    rw [List.lookup_cons] at h
    split at h
    · obtain rfl := Option.some.inj h
      exact List.mem_cons_self
    · exact List.mem_cons_of_mem _ (ih h)

/-- An empty value stands for no namespace, as it is written and as it is meant. -/
theorem filter_map_eq {f : Items → List Char} (hf : ∀ v, f v = [] ↔ v = []) (v : Option Items) :
    (v.map f).filter (!·.isEmpty) = (v.filter (!·.isEmpty)).map f := by
  cases v with
  | none => rfl
  | some v =>
    have hempty : (f v).isEmpty = v.isEmpty := by
      rw [Bool.eq_iff_iff, List.isEmpty_iff, List.isEmpty_iff, hf]
    cases hv : v.isEmpty <;> simp [Option.filter, hempty, hv]

variable {values : List Items} {known known' : Declarations}

/-- Names are in one namespace as it is written just when they are in one namespace. -/
theorem writtenNamespaceOf_eq_iff (halike : WrittenAlike values)
    (hvalues : ∀ v ∈ values, v.isWellFormed = true)
    (hknown : ∀ v ∈ known.map Prod.snd, v ∈ values)
    (hknown' : ∀ v ∈ known'.map Prod.snd, v ∈ values) (name name' : QName) :
    known.writtenNamespaceOf name = known'.writtenNamespaceOf name' ↔
      known.namespaceOf name = known'.namespaceOf name' := by
  rw [writtenNamespaceOf, writtenNamespaceOf, namespaceOf, namespaceOf,
    filter_map_eq fun _ => Items.written_eq_nil_iff,
    filter_map_eq fun _ => Items.written_eq_nil_iff,
    filter_map_eq fun _ => Items.normalized_eq_nil_iff,
    filter_map_eq fun _ => Items.normalized_eq_nil_iff]
  have hmem {known : Declarations} (hknown : ∀ v ∈ known.map Prod.snd, v ∈ values)
      {declared : List Char} {v : Items}
      (hv : (known.lookup declared).filter (!·.isEmpty) = some v) : v ∈ values :=
    hknown v (mem_values_of_lookup (Option.filter_eq_some_iff.1 hv).1)
  cases hv : (known.lookup (name.qualifier.getD [])).filter (!·.isEmpty) with
  | none =>
    cases (known'.lookup (name'.qualifier.getD [])).filter (!·.isEmpty) <;> simp
  | some v =>
    cases hw : (known'.lookup (name'.qualifier.getD [])).filter (!·.isEmpty) with
    | none => simp
    | some w =>
      have hv := hmem hknown hv
      have hw := hmem hknown' hw
      rw [Option.map_some, Option.map_some, Option.map_some, Option.map_some, Option.some_inj,
        Option.some_inj]
      constructor
      · intro heq
        rw [Items.eq_of_written (hvalues v hv) (hvalues w hw) heq]
      · exact halike v hv w hw

/-! ### Entering tags -/

theorem mem_add {a : WrittenAttribute} {v : Items} (h : v ∈ (known.add a).map Prod.snd) :
    v ∈ known.map Prod.snd ∨ (a.declared?.isSome = true ∧ v = a.value) := by
  rw [add] at h
  cases hdeclared : a.declared? with
  | none =>
    rw [hdeclared] at h
    exact .inl h
  | some declared =>
    rw [hdeclared] at h
    dsimp only at h
    split at h
    · exact .inl h
    · rcases List.mem_cons.1 h with rfl | h
      · exact .inr ⟨rfl, rfl⟩
      · exact .inl h

/-- A tag brings the values of its declarations and no others. -/
theorem mem_inside {tag : OpenTag} {v : Items} (h : v ∈ (known.inside tag).map Prod.snd) :
    v ∈ known.map Prod.snd ∨
      v ∈ (tag.attributes.filter (·.declared?.isSome)).map (·.value) := by
  rw [inside] at h
  generalize tag.attributes = attributes at h ⊢
  induction attributes generalizing known with
  | nil => exact .inl h
  | cons a attributes ih =>
    have hlater : ∀ w ∈ (attributes.filter (·.declared?.isSome)).map (·.value),
        w ∈ ((a :: attributes).filter (·.declared?.isSome)).map (·.value) := by
      intro w hw
      rw [List.filter_cons]
      split
      · exact List.mem_cons_of_mem _ hw
      · exact hw
    rcases ih h with h | h
    · rcases mem_add h with h | ⟨hdeclared, rfl⟩
      · exact .inl h
      · exact .inr (List.mem_map_of_mem (List.mem_filter.2 ⟨List.mem_cons_self, hdeclared⟩))
    · exact .inr (hlater v h)

theorem declared?_raw {a : WrittenAttribute} (h : a.name.isWellFormed = true) :
    a.raw.declared? = a.declared? := by
  have hxmlns : "xmlns".toList = ['x', 'm', 'l', 'n', 's'] := rfl
  have hlead : "xmlns:".toList = ['x', 'm', 'l', 'n', 's'] ++ [':'] := rfl
  have hsimple : ':' ∉ ['x', 'm', 'l', 'n', 's'] := by decide
  rw [Attribute.declared?, WrittenAttribute.declared?, hxmlns, hlead]
  cases hq : a.name.qualifier with
  | none =>
    have hname : a.raw.name = a.name.base := by simp [WrittenAttribute.raw, QName.written, hq]
    have hprefix : ¬ (['x', 'm', 'l', 'n', 's'] ++ [':']).isPrefixOf a.name.base = true := by
      intro hlead
      obtain ⟨t, ht⟩ := List.isPrefixOf_iff_prefix.1 hlead
      exact QName.colon_notMem_of_isSimpleName (QName.isSimpleName_base h) (ht ▸ by simp)
    rw [hname, if_neg hprefix]
  | some qualifier =>
    have hname : a.raw.name = qualifier ++ ':' :: a.name.base := by
      simp [WrittenAttribute.raw, QName.written, hq]
    have hcolon : ¬ qualifier ++ ':' :: a.name.base = ['x', 'm', 'l', 'n', 's'] :=
      fun heq => hsimple (heq ▸ by simp)
    rw [hname, if_neg hcolon]
    by_cases hqualifier : qualifier = ['x', 'm', 'l', 'n', 's']
    · subst hqualifier
      simp [List.isPrefixOf]
    · have hprefix : ¬ (['x', 'm', 'l', 'n', 's'] ++ [':']).isPrefixOf
          (qualifier ++ ':' :: a.name.base) = true := by
        intro hlead
        obtain ⟨t, ht⟩ := List.isPrefixOf_iff_prefix.1 hlead
        rw [List.append_assoc, List.singleton_append] at ht
        have hsplit := congrArg (Text.splitFirst? ':') ht
        rw [Text.splitFirst?_append_cons hsimple, Text.splitFirst?_append_cons
          (QName.colon_notMem_of_isSimpleName (QName.isSimpleName_qualifier h hq))] at hsplit
        exact hqualifier (Prod.mk.inj (Option.some.inj hsplit)).1.symm
      rw [if_neg hprefix]
      exact (if_neg hqualifier).symm

/-- Only the default namespace has an empty prefix. -/
theorem written_eq_xmlns_iff {a : WrittenAttribute} (h : a.name.isWellFormed = true)
    {declared : List Char} (hdeclared : a.declared? = some declared) :
    a.name.written = "xmlns".toList ↔ declared = [] := by
  have hsimple : ':' ∉ "xmlns".toList := by decide
  rw [WrittenAttribute.declared?] at hdeclared
  rw [QName.written]
  cases hq : a.name.qualifier with
  | none =>
    simp only [hq] at hdeclared ⊢
    split at hdeclared
    · rename_i hbase
      exact iff_of_true hbase (Option.some.inj hdeclared).symm
    · cases hdeclared
  | some qualifier =>
    simp only [hq] at hdeclared ⊢
    split at hdeclared
    · have hbase := (QName.isSimpleName_iff.1 (QName.isSimpleName_base h)).1
      obtain rfl := Option.some.inj hdeclared
      exact iff_of_false (fun heq => hsimple (heq ▸ by simp)) hbase
    · cases hdeclared

theorem add_of_declared {a : WrittenAttribute} {declared : List Char}
    (h : a.declared? = some declared) :
    known.add a = if declared = "xml".toList then known else (declared, a.value) :: known := by
  rw [add, h]

/-- A declaration of a prefix that is not reserved has no reserved namespace, as it is written
either. -/
theorem written_of_keepsReserved {a : WrittenAttribute} (h : a.isWellFormed = true)
    {declared : List Char} (hne : declared ≠ []) (hxml : declared ≠ "xml".toList)
    (hdeclared : a.declared? = some declared) :
    declared ≠ "xmlns".toList ∧ a.value.written ≠ xmlNamespace ∧
      a.value.written ≠ xmlnsNamespace := by
  have hnormal : Items.normalized (xmlNamespace.map .plain) = xmlNamespace := by decide
  have hnormal' : Items.normalized (xmlnsNamespace.map .plain) = xmlnsNamespace := by decide
  have hitems := (WrittenAttribute.isReadable h).value
  have hkeeps : a.keepsReserved = true := (Bool.and_eq_true_iff.1 h).2
  obtain ⟨c, r, rfl⟩ := List.exists_cons_of_ne_nil hne
  rw [WrittenAttribute.keepsReserved, hdeclared] at hkeeps
  simp only [if_neg hxml, Bool.and_eq_true, decide_eq_true_eq] at hkeeps
  obtain ⟨⟨hother, hnotXml⟩, hnotXmlns⟩ := hkeeps
  exact ⟨hother, mt (Items.normalized_of_written hitems (by decide) hnormal) hnotXml,
    mt (Items.normalized_of_written hitems (by decide) hnormal') hnotXmlns⟩

/-- The reader adds a declaration to those that it keeps. -/
theorem declare?_raw {a : WrittenAttribute} (h : a.isWellFormed = true)
    (hxml : a.declared? = some "xml".toList → a.value.written = xmlNamespace) :
    known.raw.declare? a.raw = some (known.add a).raw := by
  have hname := (WrittenAttribute.isReadable h).name
  rw [Scope.declare?, declared?_raw hname]
  cases hdeclared : a.declared? with
  | none =>
    have hadd : known.add a = known := by rw [add, hdeclared]
    rw [hadd]
  | some declared =>
    have hxmlns : a.raw.name = "xmlns".toList ↔ declared = [] :=
      written_eq_xmlns_iff hname hdeclared
    rw [add_of_declared hdeclared]
    dsimp only
    by_cases hempty : declared = []
    · have hother : ¬ declared = "xml".toList := by
        rw [hempty]
        decide
      rw [if_pos (hxmlns.2 hempty), if_neg hother, hempty]
      rfl
    · rw [if_neg (mt hxmlns.1 hempty)]
      by_cases hreserved : declared = "xml".toList
      · rw [if_pos hreserved, if_pos hreserved]
        exact if_pos (hxml (hreserved ▸ hdeclared))
      · obtain ⟨hother, hvalue⟩ := written_of_keepsReserved h hempty hreserved hdeclared
        rw [if_neg hreserved, if_neg hreserved, if_neg hother]
        exact if_neg (not_or.2 hvalue)

end Declarations

/-- Whether a tag that declares `xml` does so in the usual way. -/
def OpenTag.WritesReserved (tag : OpenTag) : Prop :=
  ∀ a ∈ tag.attributes, a.declared? = some "xml".toList → a.value.written = xmlNamespace

/-- Inside of a tag the reader keeps the declarations that are in force there. -/
theorem Declarations.enter?_raw {known : Declarations} {tag : OpenTag}
    (h : tag.isWellFormed = true) (hxml : tag.WritesReserved) :
    known.raw.enter? tag.raw = some (known.inside tag).raw := by
  rw [Scope.enter?, OpenTag.attributes_raw h, inside]
  have hattributes := (OpenTag.isWellFormed_iff.1 h).2.1
  rw [OpenTag.WritesReserved] at hxml
  generalize tag.attributes = attributes at hxml hattributes ⊢
  induction attributes generalizing known with
  | nil => rfl
  | cons a attributes ih =>
    obtain ⟨ha, hattributes⟩ := List.forall_mem_cons.1 hattributes
    obtain ⟨hdeclared, hxml⟩ := List.forall_mem_cons.1 hxml
    rw [List.map_cons, List.foldlM_cons, declare?_raw ha hdeclared]
    exact ih hxml hattributes

/-! ### Documents -/

namespace Body

theorem isWellFormed_of_mem_tags {body : Body} (h : body.isWellFormed = true) :
    ∀ tag ∈ body.tags, tag.isWellFormed = true := by
  induction body with
  | text items => exact fun tag htag => absurd htag List.not_mem_nil
  | empty before tag more ih =>
    obtain ⟨-, htag, hmore⟩ := isWellFormed_empty_iff.1 h
    exact List.forall_mem_cons.2 ⟨htag, ih hmore⟩
  | element before tag inside trail more ihInside ihMore =>
    obtain ⟨-, htag, hinside, -, hmore⟩ := isWellFormed_element_iff.1 h
    exact List.forall_mem_cons.2
      ⟨htag, List.forall_mem_append.2 ⟨ihInside hinside, ihMore hmore⟩⟩

theorem mem_tags_of_mem_children {body : Body} :
    ∀ child ∈ body.children, child.1 ∈ body.tags := by
  induction body with
  | text items => exact fun child hchild => absurd hchild List.not_mem_nil
  | empty before tag more ih =>
    exact List.forall_mem_cons.2
      ⟨List.mem_cons_self, fun child hchild => List.mem_cons_of_mem _ (ih child hchild)⟩
  | element before tag inside trail more _ ih =>
    exact List.forall_mem_cons.2 ⟨List.mem_cons_self, fun child hchild =>
      List.mem_cons_of_mem _ (List.mem_append_right _ (ih child hchild))⟩

end Body

theorem Root.isWellFormed_parts {root : Root} (h : root.isWellFormed = true) :
    root.tag.isWellFormed = true ∧ root.inside.isWellFormed = true := by
  cases root with
  | empty tag => exact ⟨h, rfl⟩
  | element tag inside trail =>
    simp only [isWellFormed, Bool.and_eq_true] at h
    exact h.1

namespace Document

variable {d : Document}

theorem isWellFormed_of_mem_tags (h : d.IsWellFormed) : ∀ tag ∈ d.tags, tag.isWellFormed = true :=
  List.forall_mem_cons.2 ⟨(Root.isWellFormed_parts h.root).1,
    Body.isWellFormed_of_mem_tags (Root.isWellFormed_parts h.root).2⟩

theorem mem_namespaceValues_of_outermost {v : Items}
    (h : v ∈ Declarations.outermost.map Prod.snd) : v ∈ d.namespaceValues :=
  List.mem_append_left _ h

theorem mem_namespaceValues_of_tag {tag : OpenTag} (htag : tag ∈ d.tags) {v : Items}
    (h : v ∈ (tag.attributes.filter (·.declared?.isSome)).map (·.value)) : v ∈ d.namespaceValues :=
  List.mem_append_right _ (List.mem_flatMap.2 ⟨tag, htag, h⟩)

/-- Going into an element of a document brings no values but those of the document. -/
theorem mem_namespaceValues_of_inside {known : Declarations}
    (hknown : ∀ v ∈ known.map Prod.snd, v ∈ d.namespaceValues) {tag : OpenTag}
    (htag : tag ∈ d.tags) :
    ∀ v ∈ (known.inside tag).map Prod.snd, v ∈ d.namespaceValues := fun v hv =>
  (Declarations.mem_inside hv).elim (hknown v) (mem_namespaceValues_of_tag htag)

theorem isWellFormed_of_mem_namespaceValues (h : d.IsWellFormed) :
    ∀ v ∈ d.namespaceValues, v.isWellFormed = true := by
  intro v hv
  rcases List.mem_append.1 hv with hv | hv
  · have houtermost : ∀ v ∈ Declarations.outermost.map Prod.snd, v.isWellFormed = true := by
      decide
    exact houtermost v hv
  · obtain ⟨tag, htag, hv⟩ := List.mem_flatMap.1 hv
    obtain ⟨a, ha, rfl⟩ := List.mem_map.1 hv
    have hattributes := (OpenTag.isWellFormed_iff.1 (isWellFormed_of_mem_tags h tag htag)).2.1
    exact (WrittenAttribute.isReadable (hattributes a (List.mem_filter.1 ha).1)).value

theorem value_of_declares_xml {a : WrittenAttribute} (h : a.isWellFormed = true)
    (hxml : a.declared? = some "xml".toList) : a.value.normalized = xmlNamespace := by
  have hkeeps : a.keepsReserved = true := (Bool.and_eq_true_iff.1 h).2
  rw [WrittenAttribute.keepsReserved, hxml] at hkeeps
  exact of_decide_eq_true hkeeps

/-- Where namespaces are written alike, that of `xml` is written as it always is. -/
theorem writesReserved (h : d.IsWellFormed) (halike : d.WritesNamespacesAlike) :
    ∀ tag ∈ d.tags, tag.WritesReserved := by
  intro tag htag a ha hxml
  have hattributes := (OpenTag.isWellFormed_iff.1 (isWellFormed_of_mem_tags h tag htag)).2.1
  have hreserved : xmlNamespace.map .plain ∈ Declarations.outermost.map Prod.snd := by
    simp [Declarations.outermost]
  have hvalue : a.value ∈ (tag.attributes.filter (·.declared?.isSome)).map (·.value) :=
    List.mem_map_of_mem (List.mem_filter.2 ⟨ha, by rw [hxml]; rfl⟩)
  have hnormal : Items.normalized (xmlNamespace.map .plain) = xmlNamespace := by decide
  rw [halike a.value (mem_namespaceValues_of_tag htag hvalue) _
    (mem_namespaceValues_of_outermost hreserved)
    ((value_of_declares_xml (hattributes a ha) hxml).trans hnormal.symm)]
  exact Items.written_plain xmlNamespace

end Document

end ReleaseGap.Xml
