import ReleaseGap.Proofs.Source.Examined
import ReleaseGap.Proofs.Text.Occurrence
import ReleaseGap.Report.Render

/-!
# The sections of released plugins

A row's section is chosen by the words in its label.  Where neither the tracker nor the declared
version brings one of these words in, a label has one only if the changes call for it: the parts of
a label stand between characters that are no letters, so no word is formed across them.  A released
plugin's row is then printed in one section, that of current plugins if nothing but localizations
happened since the release, and otherwise that of changes.
-/
namespace ReleaseGap

namespace Report

/-- The words that sections are chosen by. -/
def sectionWords : List String := [currentLabel, unreleasedLabel]

/-- Whether a text has none of the words that sections are chosen by. -/
def IsNeutral (text : String) : Prop := ∀ word ∈ sectionWords, Text.contains text word = false

instance (text : String) : Decidable (IsNeutral text) :=
  inferInstanceAs (Decidable (∀ word ∈ sectionWords, Text.contains text word = false))

theorem isNeutral_iff {text : String} :
    IsNeutral text ↔ ∀ word ∈ sectionWords, ¬ word.toList <:+: text.toList := by
  simp only [IsNeutral, ← Text.contains_iff, Bool.not_eq_true]

variable {word : String}

theorem toList_ne_nil (hword : word ∈ sectionWords) : word.toList ≠ [] := by
  have hwords : ∀ word ∈ sectionWords, word.toList ≠ [] := by decide
  exact hwords word hword

theorem notMem_of_isAlpha_eq_false (hword : word ∈ sectionWords) {c : Char}
    (hc : c.isAlpha = false) : c ∉ word.toList := by
  intro hmem
  have hwords : sectionWords.all (fun word => word.toList.all Char.isAlpha) = true := by decide
  rw [List.all_eq_true.1 (List.all_eq_true.1 hwords word hword) c hmem] at hc
  cases hc

theorem IsNeutral.of_infix {text part : String} (h : IsNeutral text)
    (hpart : part.toList <:+: text.toList) : IsNeutral part := by
  rw [isNeutral_iff] at h ⊢
  intro word hword hpresent
  exact h word hword (hpresent.trans hpart)

theorem isNeutral_dropEndSlashes {text : String} (h : IsNeutral text) :
    IsNeutral (Text.dropEndSlashes text) := by
  refine h.of_infix ?_
  have hsuffix := List.dropWhile_suffix (· == '/') (l := text.toList.reverse)
  have hprefix : (Text.dropEndSlashes text).toList <+: text.toList := by
    rw [Text.dropEndSlashes, Text.toList_onChars, Text.dropEndWhile]
    exact List.reverse_suffix.1 (by rwa [List.reverse_reverse])
  exact hprefix.isInfix

/-- No word is made of digits, of whatever script. -/
theorem isNeutral_of_digits {number : String}
    (h : ∀ c ∈ number.toList, Text.isDecimalDigit c = true) : IsNeutral number := by
  rw [isNeutral_iff]
  intro word hword hpresent
  have hwords : sectionWords.all (fun word => word.toList.all (!Text.isDecimalDigit ·)) = true := by
    decide +kernel
  obtain ⟨c, hc⟩ := List.exists_mem_of_ne_nil _ (toList_ne_nil hword)
  have hletter := List.all_eq_true.1 (List.all_eq_true.1 hwords word hword) c hc
  rw [h c (hpresent.subset hc)] at hletter
  cases hletter

end Report

open Report (IsNeutral sectionWords isNeutral_iff toList_ne_nil notMem_of_isAlpha_eq_false)

namespace Message

theorem isDecimalDigit_of_mem_fixedIssue? {s n r : List Char} (h : fixedIssue? s = some (n, r)) :
    ∀ c ∈ n, Text.isDecimalDigit c = true := by
  obtain ⟨_, _, h⟩ := Option.bind_eq_some_iff.1 h
  obtain ⟨_, _, h⟩ := Option.bind_eq_some_iff.1 h
  obtain ⟨_, _, h⟩ := Option.bind_eq_some_iff.1 h
  obtain ⟨s, _, h⟩ := Option.bind_eq_some_iff.1 h
  obtain ⟨_, _, h⟩ := Option.bind_eq_some_iff.1 h
  obtain ⟨rfl, -⟩ := Prod.mk.inj (Option.some.inj h)
  intro c hc
  exact List.all_eq_true.1 List.all_takeWhile c hc

theorem isDecimalDigit_of_mem_fixedIssues {s : List Char} {number : String}
    (h : number ∈ fixedIssues s) : ∀ c ∈ number.toList, Text.isDecimalDigit c = true := by
  fun_induction fixedIssues s with
  | case1 => cases h
  | case2 c r n rest hfound ih =>
    rcases List.mem_cons.1 h with rfl | h
    · rw [String.toList_ofList]
      exact isDecimalDigit_of_mem_fixedIssue? hfound
    · exact ih h
  | case3 c r hfound ih => exact ih h

end Message

namespace Classifier

variable {c : Classifier}

/-- What stands in a link is a number, the tracker's address and the project. -/
theorem isNeutral_issueLink (hurl : IsNeutral c.trackerUrl) (hproject : IsNeutral c.project)
    {number : String} (hnumber : IsNeutral number) : IsNeutral (c.issueLink number) := by
  have htext : (c.issueLink number).toList = '[' :: (number.toList ++ '|' ::
      (c.trackerUrl.toList ++ '/' :: (c.project.toList ++ '-' :: (number.toList ++ [']'])))) := by
    simp [issueLink, toString]
  rw [isNeutral_iff] at hurl hproject hnumber ⊢
  intro word hword
  have hsep : ∀ sep : Char, sep.isAlpha = false → sep ∉ word.toList :=
    fun _ => notMem_of_isAlpha_eq_false hword
  rw [htext, Text.infix_cons_iff (hsep '[' rfl) (toList_ne_nil hword),
    Text.infix_append_cons_iff (hsep '|' rfl), Text.infix_append_cons_iff (hsep '/' rfl),
    Text.infix_append_cons_iff (hsep '-' rfl), Text.infix_append_cons_iff (hsep ']' rfl),
    List.infix_nil]
  rintro (h | h | h | h | h)
  · exact hnumber word hword h
  · exact hurl word hword h
  · exact hproject word hword h
  · exact hnumber word hword h
  · exact toList_ne_nil hword h

theorem isNeutral_of_mem_issueLinks (hurl : IsNeutral c.trackerUrl)
    (hproject : IsNeutral c.project) {message link : String} (h : link ∈ c.issueLinks message) :
    IsNeutral link := by
  obtain ⟨number, hnumber, rfl⟩ := List.mem_map.1 h
  exact isNeutral_issueLink hurl hproject
    (Report.isNeutral_of_digits (Message.isDecimalDigit_of_mem_fixedIssues hnumber))

end Classifier

namespace Classification

theorem isNeutral_append_l10n {what : String} (h : IsNeutral what) :
    IsNeutral (what ++ " l10n") := by
  have htext : (what ++ " l10n").toList = what.toList ++ ' ' :: "l10n".toList := by simp
  have hend : IsNeutral "l10n" := by decide
  rw [isNeutral_iff] at h hend ⊢
  intro word hword
  rw [htext, Text.infix_append_cons_iff (notMem_of_isAlpha_eq_false hword rfl)]
  exact not_or.2 ⟨h word hword, hend word hword⟩

theorem isNeutral_fixed {fixed : List String} (h : ∀ link ∈ fixed, IsNeutral link) :
    IsNeutral ("Fixed: " ++ Text.joinWith " " fixed) := by
  have htext : ("Fixed: " ++ Text.joinWith " " fixed).toList
      = "Fixed:".toList ++ ' ' :: [' '].intercalate (fixed.map String.toList) := by
    simp [Text.joinWith]
  have hfront : IsNeutral "Fixed:" := by decide
  rw [isNeutral_iff] at hfront ⊢
  intro word hword
  have hsep : ' ' ∉ word.toList := notMem_of_isAlpha_eq_false hword rfl
  rw [htext, Text.infix_append_cons_iff hsep]
  rintro (hword' | hlinks)
  · exact hfront word hword hword'
  · obtain ⟨text, htext, hpresent⟩ :=
      Text.exists_infix_of_infix_intercalate hsep (toList_ne_nil hword) hlinks
    obtain ⟨link, hlink, rfl⟩ := List.mem_map.1 htext
    exact isNeutral_iff.1 (h link hlink) word hword hpresent

/-- Changes that are not all localizations never give a label with one of the words. -/
theorem isNeutral_ownLabel {count localized : Nat} {fixed : List String} (hcount : count ≠ 0)
    (hfixed : ∀ link ∈ fixed, IsNeutral link) (hbusy : fixed = [] → localized ≠ count) :
    IsNeutral (ownLabel count localized fixed) := by
  have hwhat : IsNeutral (if !fixed.isEmpty then "Fixed: " ++ Text.joinWith " " fixed
      else if localized = count then "~CURRENT --" else "") := by
    by_cases hnone : fixed = []
    · simp only [hnone, List.isEmpty_nil, Bool.not_true, Bool.false_eq_true, if_false,
        if_neg (hbusy hnone)]
      decide
    · have hsome : (!fixed.isEmpty) = true := by simpa using hnone
      rw [if_pos hsome]
      exact isNeutral_fixed hfixed
  rw [ownLabel, if_neg hcount]
  by_cases hlocalized : 0 < localized
  · simp only [if_pos hlocalized]
    exact isNeutral_append_l10n hwhat
  · simp only [if_neg hlocalized]
    exact hwhat

theorem ownLabel_localized {count : Nat} (hcount : count ≠ 0) :
    ownLabel count count [] = "~CURRENT -- l10n" := by
  have hpos : 0 < count := by omega
  simp [ownLabel, hcount, hpos]

/-- The label that the changes give is that of a current plugin if nothing was fixed and all of them
are localizations, and it never is that of a plugin without release. -/
theorem contains_ownLabel (count localized : Nat) {fixed : List String}
    (hfixed : ∀ link ∈ fixed, IsNeutral link) :
    (Text.contains (ownLabel count localized fixed) currentLabel = true ↔
      count = 0 ∨ (fixed = [] ∧ localized = count)) ∧
    Text.contains (ownLabel count localized fixed) unreleasedLabel = false := by
  by_cases hcount : count = 0
  · rw [ownLabel, if_pos hcount]
    exact ⟨iff_of_true (by decide) (.inl hcount), by decide⟩
  · by_cases hidle : fixed = [] ∧ localized = count
    · obtain ⟨rfl, rfl⟩ := hidle
      rw [ownLabel_localized hcount]
      exact ⟨iff_of_true (by decide) (.inr ⟨rfl, rfl⟩), by decide⟩
    · have hneutral : IsNeutral (ownLabel count localized fixed) :=
        isNeutral_ownLabel hcount hfixed fun hnone hall => hidle ⟨hnone, hall⟩
      have hcurrent : Text.contains (ownLabel count localized fixed) currentLabel = false :=
        hneutral _ (by decide)
      refine ⟨iff_of_false ?_ (not_or.2 ⟨hcount, hidle⟩), hneutral _ (by decide)⟩
      rw [hcurrent]
      exact Bool.false_ne_true

/-- A note about the declared version adds no word to a label and takes none away. -/
theorem contains_append_mismatchNote {word declared : String} (hword : word ∈ sectionWords)
    (hdeclared : IsNeutral declared) (own resolved : String) :
    Text.contains (own ++ mismatchNote declared resolved) word = Text.contains own word := by
  rw [mismatchNote]
  split
  · rw [String.append_empty]
  · have htext : (own ++ s!" (_Version mismatch: json has {declared}_)").toList
        = own.toList ++ ' ' :: ("(_Version mismatch: json has".toList ++ ' ' ::
          (declared.toList ++ '_' :: [')'])) := by
      simp [toString]
    have hnote : IsNeutral "(_Version mismatch: json has" := by decide
    have hend : IsNeutral ")" := by decide
    rw [isNeutral_iff] at hnote hend hdeclared
    have hsep : ∀ sep : Char, sep.isAlpha = false → sep ∉ word.toList :=
      fun _ => notMem_of_isAlpha_eq_false hword
    rw [Bool.eq_iff_iff, Text.contains_iff, Text.contains_iff, htext,
      Text.infix_append_cons_iff (hsep ' ' rfl), Text.infix_append_cons_iff (hsep ' ' rfl),
      Text.infix_append_cons_iff (hsep '_' rfl)]
    refine or_iff_left ?_
    rintro (h | h | h)
    · exact hnote word hword h
    · exact hdeclared word hword h
    · exact hend word hword h

end Classification

namespace Classifier

/-- Whether nothing but localizations happened: release tooling made all changes, or each of the
others is a localization that fixes no issue. -/
def IsIdle (c : Classifier) (revisions : List Revision) : Prop :=
  (∀ r ∈ revisions, Message.isReleaseNoise r.message = true) ∨
    ∀ r ∈ revisions, Message.isReleaseNoise r.message = false →
      Message.isLocalization r.message = true ∧ c.issueLinks r.message = []

instance (c : Classifier) (revisions : List Revision) : Decidable (c.IsIdle revisions) :=
  inferInstanceAs (Decidable (_ ∨ _))

theorem isIdle_iff {c : Classifier} {revisions : List Revision} :
    let counted := revisions.filter fun r => !Message.isReleaseNoise r.message
    c.IsIdle revisions ↔ counted.length = 0 ∨
      ((counted.flatMap fun r => c.issueLinks r.message) = [] ∧
        (counted.countP fun r => Message.isLocalization r.message) = counted.length) := by
  intro counted
  have hmem : ∀ r, r ∈ counted ↔ r ∈ revisions ∧ Message.isReleaseNoise r.message = false := by
    simp [counted]
  rw [IsIdle, List.length_eq_zero_iff, List.eq_nil_iff_forall_not_mem, List.flatMap_eq_nil_iff,
    List.countP_eq_length]
  simp only [hmem, not_and, Bool.not_eq_false, and_imp]
  refine or_congr_right ⟨fun h => ⟨?links, ?localized⟩, fun h r hr hnoise => ?_⟩
  case links => exact fun r hr hnoise => (h r hr hnoise).2
  case localized => exact fun r hr hnoise => (h r hr hnoise).1
  exact ⟨h.2 r hr hnoise, h.1 r hr hnoise⟩

/-- Without an entry of the operator, the label says whether anything but localizations happened,
and never that there was no release. -/
theorem contains_label_classify (issues : Settings.Issues) {id declared resolved : String}
    {revisions : List Revision} {known : Overrides.Table}
    (hentry : known.get? (Classification.key id resolved
      (revisions.filter fun r => !Message.isReleaseNoise r.message).length) = none)
    (hurl : IsNeutral issues.url) (hproject : IsNeutral issues.project)
    (hdeclared : IsNeutral declared) :
    let c := ofSettings issues
    let label := (c.classify id declared resolved revisions known).1.label
    (Text.contains label currentLabel = true ↔ c.IsIdle revisions) ∧
    Text.contains label unreleasedLabel = false := by
  intro c label
  let counted := revisions.filter fun r => !Message.isReleaseNoise r.message
  have hlabel : label = Classification.ownLabel counted.length
      (counted.countP fun r => Message.isLocalization r.message)
      (counted.flatMap fun r => c.issueLinks r.message)
        ++ Classification.mismatchNote declared resolved := by
    simp only [label, classify, Overrides.Table.take, hentry]
    rfl
  have hfixed : ∀ link ∈ counted.flatMap fun r => c.issueLinks r.message, IsNeutral link := by
    intro link hlink
    obtain ⟨r, -, hr⟩ := List.mem_flatMap.1 hlink
    have htracker : IsNeutral c.trackerUrl := Report.isNeutral_dropEndSlashes hurl
    have hc : IsNeutral c.project := hproject
    exact isNeutral_of_mem_issueLinks htracker hc hr
  obtain ⟨hcurrent, hunreleased⟩ := Classification.contains_ownLabel counted.length
    (counted.countP fun r => Message.isLocalization r.message) hfixed
  have hcurrentWord : currentLabel ∈ sectionWords := by decide
  have hunreleasedWord : unreleasedLabel ∈ sectionWords := by decide
  rw [hlabel, Classification.contains_append_mismatchNote hcurrentWord hdeclared,
    Classification.contains_append_mismatchNote hunreleasedWord hdeclared]
  exact ⟨hcurrent.trans isIdle_iff.symm, hunreleased⟩

end Classifier

namespace Report

/-- A section: its title below an empty line, and its rows. -/
def sectionLines (title : String) (rows : List Row) : List String :=
  ["", "h3. " ++ title] ++ rows.map (·.line)

/-- The text of a report whose sections have some rows. -/
def page (wording : Settings.Wording) (changed neverReleased current : List Row)
    (unused : List (String × String)) : String :=
  String.join ((heading wording ++ sectionLines "Plugin Changes" changed
    ++ sectionLines "Unreleased Plugins" neverReleased
    ++ sectionLines "Current Plugins" current ++ unused.map unusedLine).map (· ++ "\n"))

theorem render_eq_page (r : Report) (wording : Settings.Wording) :
    r.render wording = page wording r.changed r.neverReleased r.current r.unused := by
  have htitles : "h3. " ++ "Plugin Changes" = "h3. Plugin Changes" ∧
      "h3. " ++ "Unreleased Plugins" = "h3. Unreleased Plugins" ∧
      "h3. " ++ "Current Plugins" = "h3. Current Plugins" := by decide
  simp only [render, allLines, page, sectionLines, htitles, List.append_assoc]

/-- Among any other rows and after any order, the row of a released plugin without an entry of the
operator is printed in one section: that of current plugins if nothing but localizations happened,
and that of changes otherwise. -/
theorem render_released (issues : Settings.Issues) {plugin : Plugin} {collected : Collected}
    {known : Overrides.Table} (hentry : known.get? (collected.key plugin.id) = none)
    (hurl : IsNeutral issues.url) (hproject : IsNeutral issues.project)
    (hdeclared : IsNeutral plugin.version) (today : Calendar.Date) (above below : Report)
    (unused : List (String × String)) (wording : Settings.Wording) :
    let classifier := Classifier.ofSettings issues
    let row := Row.released plugin collected (classifier.classify plugin.id plugin.version
      collected.version collected.revisions known).1 today
    let text := render { rows := above.rows ++ row :: below.rows, unused } wording
    (classifier.IsIdle collected.revisions →
      text = page wording (above.changed ++ below.changed)
        (above.neverReleased ++ below.neverReleased)
        (above.current ++ row :: below.current) unused) ∧
    (¬ classifier.IsIdle collected.revisions →
      text = page wording (above.changed ++ row :: below.changed)
        (above.neverReleased ++ below.neverReleased)
        (above.current ++ below.current) unused) := by
  intro classifier row text
  obtain ⟨hcurrent, hunreleased⟩ :=
    Classifier.contains_label_classify issues hentry hurl hproject hdeclared
  have hneverReleased : isUnreleased row = false := hunreleased
  have htext : text = page wording _ _ _ unused := render_eq_page _ wording
  constructor
  · intro hidle
    have hrow : isCurrent row = true := hcurrent.2 hidle
    rw [htext]
    simp [changed, neverReleased, current, hrow, hneverReleased]
  · intro hbusy
    have hrow : isCurrent row = false := Bool.eq_false_iff.2 fun h => hbusy (hcurrent.1 h)
    rw [htext]
    simp [changed, neverReleased, current, hrow, hneverReleased]

/-- A localization, and one next to a change that fixes an issue, of a plugin whose release is not
the one declared. -/
theorem render_released_sample :
    let plugin : Plugin :=
      { id := "foo", version := "1.0", wiki := none, releaseTimestamp := none, kind := .hostedGit
        repository := "foo-plugin" }
    let day : Calendar.Date := ⟨2011, 3, 3, by decide⟩
    let localization : Revision := ⟨day, "Community-contributed localization for German"⟩
    let fix : Revision := ⟨day, "FIXED JENKINS-9"⟩
    let row (revisions : List Revision) := Row.released plugin ⟨"1.1", revisions, "u"⟩
      ((Classifier.ofSettings {}).classify "foo" "1.0" "1.1" revisions {}).1 day
    let text (revisions : List Revision) := render { rows := [row revisions] } {}
    text [localization] = page {} [] [] [row [localization]] [] ∧
    text [localization, fix] = page {} [row [localization, fix]] [] [] [] := by
  intro plugin day localization fix row text
  have hentry (revisions : List Revision) : ({} : Overrides.Table).get?
      ((⟨"1.1", revisions, "u"⟩ : Collected).key plugin.id) = none := rfl
  have hdeclared : IsNeutral plugin.version := by decide +kernel
  have hprinted (revisions : List Revision) :=
    render_released {} (hentry revisions) (by decide +kernel) (by decide +kernel) hdeclared day {}
      {} [] {}
  have hidle : (Classifier.ofSettings {}).IsIdle [localization] := by decide +kernel
  have hbusy : ¬ (Classifier.ofSettings {}).IsIdle [localization, fix] := by decide +kernel
  exact ⟨(hprinted [localization]).1 hidle, (hprinted [localization, fix]).2 hbusy⟩

end Report

end ReleaseGap
