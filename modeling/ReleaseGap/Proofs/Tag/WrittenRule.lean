import ReleaseGap.Overrides.Table
import ReleaseGap.Proofs.Text.Cutting
import ReleaseGap.Tag.Matcher

/-!
# Tag rules as they are written

An operator writes a rule into a table of overrides, behind the id of the plugin.  What the table
gives back under the id is read as the base and the directory that were written, and as the suffix
up to its first bar.
-/
namespace ReleaseGap

/-- What can be written between the bars of a line: no blanks around it, no comment and no line
feed. -/
structure IsField (s : String) : Prop where
  trimmed : Text.IsTrimmed s.toList
  noComment : '#' ∉ s.toList
  noLineFeed : '\n' ∉ s.toList

instance (s : String) : Decidable (IsField s) :=
  decidable_of_iff (Text.IsTrimmed s.toList ∧ '#' ∉ s.toList ∧ '\n' ∉ s.toList)
    ⟨fun ⟨h, h', h''⟩ => ⟨h, h', h''⟩, fun ⟨h, h', h''⟩ => ⟨h, h', h''⟩⟩

theorem toList_append_bar (a b : String) :
    (a ++ "|" ++ b).toList = a.toList ++ '|' :: b.toList := by
  simp

theorem isField_append_bar {a b : String} (ha : IsField a) (hb : IsField b) :
    IsField (a ++ "|" ++ b) := by
  constructor <;> rw [toList_append_bar]
  · exact Text.isTrimmed_append_cons (by decide) ha.trimmed hb.trimmed
  · simp [ha.noComment, hb.noComment]
  · simp [ha.noLineFeed, hb.noLineFeed]

namespace Overrides

/-- A key ends a table if the line does that it begins. -/
theorem endsTable_append_bar (key rest : List Char) :
    endsTable (key ++ '|' :: rest) = endsTable key := by
  -- A bar is no hyphen, so that the end mark does not reach it.
  have hprefix : ∀ mark key : List Char, '|' ∉ mark →
      mark.isPrefixOf (key ++ '|' :: rest) = mark.isPrefixOf key := by
    intro mark
    induction mark with
    | nil => simp
    | cons m mark ih =>
      intro key hmark
      obtain ⟨hm, hmark⟩ := not_or.1 (mt List.mem_cons.2 hmark)
      cases key with
      | nil => simp [List.isPrefixOf, Ne.symm hm]
      | cons c key => simp [List.isPrefixOf, ih key hmark]
  exact hprefix tableEnd key (by decide)

/-- Of a line nothing is lost that is no comment. -/
theorem lineContent_eq_self {line : List Char} (htrimmed : Text.IsTrimmed line)
    (hcomment : '#' ∉ line) : lineContent line = line := by
  have hkept : line.takeWhile (· ≠ '#') = line := by
    rw [List.takeWhile_eq_self_iff]
    exact fun c hc => by simpa using ne_of_mem_of_not_mem hc hcomment
  rw [lineContent, hkept, Text.trim_eq_self htrimmed]

theorem entryOfLine?_append_bar {key value : String} (hkey : IsField key) (hvalue : IsField value)
    (hbar : '|' ∉ key.toList) :
    entryOfLine? (key ++ "|" ++ value).toList = some (key, .text value) := by
  have hline := isField_append_bar hkey hvalue
  rw [entryOfLine?, lineContent_eq_self hline.trimmed hline.noComment, toList_append_bar,
    Text.splitFirst?_append_cons hbar]
  simp [Text.trimEnd_eq_self hkey.trimmed.2, Text.trimStart_eq_self hvalue.trimmed.1]

/-- The table of one line has the text that is written behind its key. -/
theorem text?_ofText_append_bar {key value : String} (hkey : IsField key) (hvalue : IsField value)
    (hbar : '|' ∉ key.toList) (hend : ¬ Text.startsWith key "----") :
    (Table.ofText (key ++ "|" ++ value)).text? key = some value := by
  have hstays : endsTable (key ++ "|" ++ value).toList = false := by
    rw [toList_append_bar, endsTable_append_bar]
    exact Bool.not_eq_true _ ▸ hend
  have hlines : Text.lines (key ++ "|" ++ value).toList = [(key ++ "|" ++ value).toList] :=
    Text.lines_of_notMem (isField_append_bar hkey hvalue).noLineFeed (by simp)
  rw [Table.ofText, hlines, List.takeWhile_cons_of_pos (by rw [hstays]; rfl), List.takeWhile_nil]
  change (Table.addLine {} (key ++ "|" ++ value).toList).text? key = some value
  have hget : (Table.insert {} key (.text value)).get? key = some (.text value) := by
    rw [Table.get?_insert, if_pos rfl]
  rw [Table.addLine, entryOfLine?_append_bar hkey hvalue hbar, Table.text?, hget]

end Overrides

namespace TagRule

/-- A rule that reads a directory, as an operator writes it. -/
def written (base directory suffix : String) : String :=
  base ++ "|" ++ (directory ++ "|" ++ suffix)

/-- What is read of a suffix: the text in front of its first bar. -/
def readSuffix (suffix : String) : String :=
  Text.onChars (fun s => Text.trim (s.takeWhile (· ≠ '|'))) suffix

theorem ofText_written {base directory : String} (hbase : IsField base)
    (hdirectory : IsField directory) (hbaseBar : '|' ∉ base.toList)
    (hdirectoryBar : '|' ∉ directory.toList) (hne : directory ≠ "")
    (hmark : directory ≠ asTaggedMark) (suffix : String) :
    ofText (written base directory suffix) =
      ⟨base, .descriptor directory, readSuffix suffix⟩ := by
  obtain ⟨more, hmore⟩ := List.head?_eq_some_iff.1 (Text.head?_fields '|' suffix.toList)
  have hfields : Text.fields '|' (written base directory suffix).toList =
      base.toList :: directory.toList :: (suffix.toList.takeWhile (· ≠ '|')) :: more := by
    rw [written, toList_append_bar, Text.fields_append_cons hbaseBar, toList_append_bar,
      Text.fields_append_cons hdirectoryBar, hmore]
  simp [ofText, hfields, Text.trim_eq_self hbase.trimmed, Text.trim_eq_self hdirectory.trimmed,
    readSource, hne, hmark, readSuffix, Text.onChars]

theorem readSuffix_eq_self_iff {suffix : String} (h : IsField suffix) :
    readSuffix suffix = suffix ↔ '|' ∉ suffix.toList := by
  rw [← String.toList_inj, readSuffix, Text.toList_onChars]
  constructor
  · intro hread hbar
    -- No bar is left in front of the first one.
    have hmem : '|' ∈ suffix.toList.takeWhile (· ≠ '|') := by
      have hsub : Text.trim (suffix.toList.takeWhile (· ≠ '|')) <:+:
          suffix.toList.takeWhile (· ≠ '|') :=
        (List.rdropWhile_prefix _ _).isInfix.trans (List.dropWhile_suffix _).isInfix
      exact hsub.subset (hread.symm ▸ hbar)
    simpa using List.mem_takeWhile_imp hmem
  · intro hbar
    have hkept : suffix.toList.takeWhile (· ≠ '|') = suffix.toList := by
      rw [List.takeWhile_eq_self_iff]
      exact fun c hc => by simpa using ne_of_mem_of_not_mem hc hbar
    rw [hkept, Text.trim_eq_self h.trimmed]

/-- A rule is read from its line with the base and the directory as they were written, and with the
suffix as it was written if this has no bar. -/
theorem rule_of_written_line {id base directory suffix : String} (hid : IsField id)
    (hbase : IsField base) (hdirectory : IsField directory) (hsuffix : IsField suffix)
    (hidBar : '|' ∉ id.toList) (hbaseBar : '|' ∉ base.toList)
    (hdirectoryBar : '|' ∉ directory.toList) (hend : ¬ Text.startsWith id "----")
    (hne : directory ≠ "") (hmark : directory ≠ asTaggedMark) :
    ((Overrides.Table.ofText (id ++ "|" ++ written base directory suffix)).text? id).map ofText =
      some ⟨base, .descriptor directory, readSuffix suffix⟩ ∧
    (readSuffix suffix = suffix ↔ '|' ∉ suffix.toList) := by
  have hrule : IsField (written base directory suffix) :=
    isField_append_bar hbase (isField_append_bar hdirectory hsuffix)
  rw [Overrides.text?_ofText_append_bar hid hrule hidBar hend, Option.map_some,
    ofText_written hbase hdirectory hbaseBar hdirectoryBar hne hmark]
  exact ⟨rfl, readSuffix_eq_self_iff hsuffix⟩

theorem rule_of_written_line_sample :
    IsField "foo" ∧ IsField "git-tool" ∧ IsField "plug in" ∧ IsField "-(a1)?" ∧
    ((Overrides.Table.ofText ("foo" ++ "|" ++ written "git-tool" "plug in" "-(a1)?")).text?
      "foo").map ofText = some ⟨"git-tool", .descriptor "plug in", readSuffix "-(a1)?"⟩ ∧
    readSuffix "-(a1)?" = "-(a1)?" := by
  have hid : IsField "foo" := by decide
  have hbase : IsField "git-tool" := by decide
  have hdirectory : IsField "plug in" := by decide
  have hsuffix : IsField "-(a1)?" := by decide
  obtain ⟨hrule, hread⟩ := rule_of_written_line hid hbase hdirectory hsuffix (by decide)
    (by decide) (by decide) (by decide) (by decide) (by decide)
  exact ⟨hid, hbase, hdirectory, hsuffix, hrule, hread.2 (by decide)⟩

/-- Of a suffix with two alternatives the second one is lost. -/
theorem rule_of_alternatives :
    let rule := written "git" "plugin" "-rc|-beta"
    IsField "foo" ∧ IsField "git" ∧ IsField "plugin" ∧ IsField "-rc|-beta" ∧
    (Overrides.Table.ofText ("foo" ++ "|" ++ rule)).text? "foo" = some rule ∧
    ofText rule = ⟨"git", .descriptor "plugin", "-rc"⟩ ∧
    ofText rule ≠ ⟨"git", .descriptor "plugin", "-rc|-beta"⟩ := by
  decide +kernel

end TagRule

end ReleaseGap
