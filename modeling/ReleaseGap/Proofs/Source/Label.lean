import ReleaseGap.Proofs.Source.Examined

/-!
# Labels of plugins without data

A plugin is called current only if its release was found and all of its changes were made by release
tooling.  Where the release or the changes are missing it is called unknown, unless the operator has
an entry for it, which always supplies the label.
-/
namespace ReleaseGap

namespace Classification

/-- The label of changes that count never starts like that of a current plugin. -/
theorem head?_ownLabel_of_pos {count : Nat} (h : count ≠ 0) (localized : Nat)
    (fixed : List String) :
    (ownLabel count localized fixed).toList.head? ≠ some 'C' := by
  simp only [ownLabel, h, if_false]
  by_cases hfixed : fixed.isEmpty = true
  · by_cases hall : localized = count
    · simp [hfixed, hall, Nat.pos_of_ne_zero h]
    · by_cases hloc : 0 < localized <;> simp [hfixed, hall, hloc]
  · by_cases hloc : 0 < localized <;> simp [hfixed, hloc]

theorem head?_mismatchNote (declared resolved : String) :
    (mismatchNote declared resolved).toList.head? ≠ some 'C' := by
  rw [mismatchNote]
  split
  · simp
  · simp [ToString.toString]

end Classification

theorem Text.head?_of_startsWith {s lead : String} {c : Char} {rest : List Char}
    (hlead : lead.toList = c :: rest) (h : Text.startsWith s lead = true) :
    s.toList.head? = some c := by
  obtain ⟨tail, ht⟩ := List.isPrefixOf_iff_prefix.1 h
  rw [← ht, hlead]
  rfl

theorem toList_currentLabel : currentLabel.toList = 'C' :: "URRENT".toList := rfl

/-- Without an entry of the operator a plugin is called current just when nothing counts. -/
theorem Classification.startsWith_ownLabel_iff (count localized : Nat) (fixed : List String)
    (declared resolved : String) :
    Text.startsWith (ownLabel count localized fixed ++ mismatchNote declared resolved) currentLabel
      = true ↔ count = 0 := by
  constructor
  · intro h
    by_contra hcount
    have hhead := Text.head?_of_startsWith toList_currentLabel h
    rw [String.toList_append, List.head?_append] at hhead
    cases hown : (ownLabel count localized fixed).toList.head? with
    | some c =>
      rw [hown] at hhead
      exact head?_ownLabel_of_pos hcount localized fixed (hown.trans hhead)
    | none =>
      rw [hown] at hhead
      exact head?_mismatchNote declared resolved hhead
  · rintro rfl
    exact Text.startsWith_append currentLabel _

/-- The label of collected changes after seeding.  An entry of the operator comes first; after it
the absence of changes, and only then what the changes give of themselves. -/
theorem Classifier.label_classify_seed (classifier : Classifier) (id declared : String)
    (c : Collected) (known : Overrides.Table) :
    ∃ localized fixed,
      (classifier.classify id declared c.version c.revisions (c.seed id known)).1.label
        = (match known.get? (c.key id) with
            | some e => e.content
            | none => if c.revisions = [] then unknownVersion
              else Classification.ownLabel c.count localized fixed)
          ++ Classification.mismatchNote declared c.version := by
  let counted := c.revisions.filter fun r => !Message.isReleaseNoise r.message
  refine ⟨counted.countP fun r => Message.isLocalization r.message,
    counted.flatMap fun r => classifier.issueLinks r.message, ?_⟩
  change (match (c.seed id known).get? (c.key id) with
    | some e => e.content
    | none => _) ++ _ = _
  rw [Collected.get?_seed]
  cases known.get? (c.key id) <;> by_cases h : c.revisions = [] <;> simp [h] <;> rfl

namespace Source

variable (source : Source) (classifier : Classifier) (plugin : Plugin) (known : Overrides.Table)

theorem revisions_collectedOf_eq_nil_iff (answer : Option (Release × List Revision)) :
    (source.collectedOf plugin answer).revisions = []
      ↔ answer = none ∨ ∃ release, answer = some (release, []) := by
  rcases answer with _ | ⟨release, revisions⟩ <;> simp [collectedOf]

/-- Missing data is never reported as current, and an entry of the operator always is the label. -/
theorem label_examine (world : World) (past : List Question) :
    let answer := ((source.answer plugin).runFrom world past).1
    let examined := ((source.examine classifier plugin known).runFrom world past).1
    let label := examined.classification.label
    let entry := known.get?
      (Classification.key plugin.id examined.collected.version examined.classification.count)
    (entry = none →
      (Text.startsWith label currentLabel = true ↔
        ∃ release revisions, answer = some (release, revisions) ∧ revisions ≠ [] ∧
          ∀ r ∈ revisions, Message.isReleaseNoise r.message = true) ∧
      ((answer = none ∨ ∃ release, answer = some (release, [])) →
        Text.startsWith label unknownVersion = true)) ∧
    ∀ e, entry = some e →
      label = e.content ++ Classification.mismatchNote plugin.version examined.collected.version
    := by
  intro answer examined label entry
  let c := source.collectedOf plugin answer
  have hexamined : examined = Examined.mk c (classifier.classify plugin.id plugin.version
      c.version c.revisions (c.seed plugin.id known)).1 (known.erase (c.key plugin.id)) := by
    simp only [examined, Source.examine_eq, Session.runFrom_bind, Session.runFrom_pure]
    rfl
  have hcollected : examined.collected = c := by rw [hexamined]
  have hentry : entry = known.get? (c.key plugin.id) := by
    simp only [entry, hexamined]
    rfl
  obtain ⟨localized, fixed, hlabel⟩ :=
    classifier.label_classify_seed plugin.id plugin.version c known
  have hlabel : label = _ := (congrArg (fun e => e.classification.label) hexamined).trans hlabel
  rw [← hentry] at hlabel
  refine ⟨fun hnone => ⟨?_, fun hmissing => ?_⟩, fun e he => ?_⟩
  · rw [hlabel, hnone]
    by_cases hrevisions : c.revisions = []
    · -- A seeded label is that of no current plugin, and there are no changes to speak of.
      rw [if_pos hrevisions]
      constructor
      · intro h
        have := Text.head?_of_startsWith toList_currentLabel h
        simp [unknownVersion] at this
      · rintro ⟨release, revisions, hanswer, hne, -⟩
        simp [c, hanswer, collectedOf, hne] at hrevisions
    · rw [if_neg hrevisions, Classification.startsWith_ownLabel_iff, Collected.count_eq_zero_iff]
      rcases hanswer : answer with _ | ⟨release, revisions⟩
      · simp [c, hanswer, collectedOf] at hrevisions
      · simp_all [c, collectedOf]
  · rw [hlabel, hnone, if_pos ((revisions_collectedOf_eq_nil_iff source plugin answer).2 hmissing)]
    exact Text.startsWith_append _ _
  · rw [hlabel, he, hcollected]

end Source

end ReleaseGap
