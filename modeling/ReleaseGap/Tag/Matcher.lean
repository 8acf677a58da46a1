import ReleaseGap.Pattern.Read
import ReleaseGap.Pattern.Search
import ReleaseGap.Tag.Rule

/-!
# Matching tags

Whether a tag marks a release of a plugin, and which version.  A tag is the plugin's id, an optional
hyphen and a version number, or a version number alone; a rule admits further tags.  Both are
patterns, and one that is not read, since a suffix is faulty or an id too long, admits no tag.
-/

namespace ReleaseGap

/-- What a tag says about a plugin. -/
inductive TagMatch where
  | version (v : String)
  /-- The version is to be read from the project descriptor in a directory. -/
  | lookUp (tagged directory : String)
  | unmatched
deriving DecidableEq, Repr

/-- The form of tags. -/
inductive TagForm where
  /-- An optional base, with an optional hyphen, and a version number. -/
  | based (base : List Char)
  /-- A pattern whose group is the version. -/
  | pattern (r : Pattern.Regex)

/-- The forms of a plugin's tags: the one that its id gives and one by a rule.  Either may be
missing. -/
structure TagMatcher where
  plain : Option TagForm
  custom : Option (TagForm × VersionSource)

/-- The characters of version numbers. -/
def isVersionChar (c : Char) : Bool := ('0' ≤ c && c ≤ '9') || c = '.' || c = '_'

namespace TagForm

/-- A version number. -/
def number? (s : List Char) : Option (List Char) :=
  if !s.isEmpty && s.all isVersionChar then some s else none

/-- The version number behind a base and an optional hyphen. -/
def numberAfter? (base tag : List Char) : Option (List Char) :=
  match Text.dropLead? base tag with
  | none => none
  | some ('-' :: r) => number? r
  | some r => number? r

/-- The characters of version numbers as a pattern has them. -/
def versionChars : Pattern.CharSet := [(46, 46), (48, 57), (95, 95)]

def optionalHyphen : Pattern.Regex := .repeated true 0 (some 1) (.chars (.single '-'))

/-- A base with an optional hyphen. -/
def lead (base : List Char) : Pattern.Regex :=
  .cats (base.map (fun c => .chars (.single c)) ++ [optionalHyphen])

/-- A version number up to the end of the tag. -/
def numbered : Pattern.Regex :=
  .cat (.marked (.repeated true 1 none (.chars versionChars))) (.look .textEnd)

/-- The pattern of tags with an optional base and a version number. -/
def plain (base : List Char) : Pattern.Regex :=
  .cat (.look .textStart) (.cat (.repeated true 0 (some 1) (lead base)) numbered)

/-- The form that a base gives, if its pattern is not too big. -/
def plain? (base : List Char) : Option TagForm :=
  if (plain base).weight ≤ Pattern.Regex.weightLimit then some (.based base) else none

/-- The pattern of tags with a suffix behind the version number. -/
def suffixPattern (base suffix : List Char) : List Char :=
  "^(?:".toList ++ Pattern.quoted base ++ "-?)?([0-9._]+".toList ++ suffix ++ ")$".toList

/-- The form that a rule gives, if its pattern is read. -/
def ofRule? (rule : TagRule) : Option TagForm :=
  let base := rule.base.toList
  if rule.suffix.isEmpty then plain? base
  else (Pattern.Regex.read? (suffixPattern base rule.suffix.toList)).map .pattern

/-- The version of a tag. -/
def version? (form : TagForm) (tag : List Char) : Option (List Char) :=
  match form with
  | .based base => (numberAfter? base tag).or (number? tag)
  | .pattern r => r.markedText? tag

end TagForm

namespace TagMatcher

/-- The matcher of a plugin with an optional rule. -/
def ofRule (id : String) (rule : Option TagRule) : TagMatcher :=
  ⟨TagForm.plain? id.toList, rule.bind fun r => (TagForm.ofRule? r).map (·, r.source)⟩

/-- The outcome for a version found by a rule. -/
def found (source : VersionSource) (version : List Char) : TagMatch :=
  match source with
  | .asTagged => .version (String.ofList version)
  | .descriptor directory => .lookUp (String.ofList version) directory

/-- Matches a tag.  The form by the id comes first. -/
def matchTag (m : TagMatcher) (tag : String) : TagMatch :=
  match m.plain.bind (·.version? tag.toList) with
  | some version => .version (String.ofList version)
  | none =>
    match m.custom with
    | none => .unmatched
    | some (form, source) =>
      match form.version? tag.toList with
      | some version => found source version
      | none => .unmatched

end TagMatcher

end ReleaseGap
