import ReleaseGap.Pattern.CategoryTable
import ReleaseGap.Pattern.CharSet
import ReleaseGap.Pattern.PropertyTable
import ReleaseGap.Pattern.ScriptTable

/-!
# Named sets of characters

The sets that patterns name: general categories, scripts and some other properties, by any of their
Unicode names.  Case, spaces, hyphens and underscores in a name do not count, nor does a leading
`is`.
-/

namespace ReleaseGap.Pattern

/-- A name without what does not count in it. -/
def looseName (name : List Char) : String :=
  let lowered := name.map Char.toLower
  let (marked, body) := match lowered with
    | 'i' :: 's' :: r => (true, r)
    | r => (false, r)
  let kept := body.filter fun c => c.toNat < 0x80 && c ≠ ' ' && c ≠ '_' && c ≠ '-'
  if marked && kept = ['c'] then "isc" else String.ofList kept

/-- The names of categories and of groups of categories, and what categories they stand for. -/
def categoryGroups : List (List String × List String) :=
  [
    (["l", "letter"], ["Lu", "Ll", "Lt", "Lm", "Lo"]),
    (["lc", "casedletter"], ["Lu", "Ll", "Lt"]),
    (["m", "mark", "combiningmark"], ["Mn", "Mc", "Me"]),
    (["n", "number"], ["Nd", "Nl", "No"]),
    (["p", "punctuation", "punct"], ["Pc", "Pd", "Ps", "Pe", "Pi", "Pf", "Po"]),
    (["s", "symbol"], ["Sm", "Sc", "Sk", "So"]),
    (["z", "separator"], ["Zs", "Zl", "Zp"]),
    (["lu", "uppercaseletter"], ["Lu"]),
    (["ll", "lowercaseletter"], ["Ll"]),
    (["lt", "titlecaseletter"], ["Lt"]),
    (["lm", "modifierletter"], ["Lm"]),
    (["lo", "otherletter"], ["Lo"]),
    (["mn", "nonspacingmark"], ["Mn"]),
    (["mc", "spacingmark"], ["Mc"]),
    (["me", "enclosingmark"], ["Me"]),
    (["nd", "decimalnumber", "digit"], ["Nd"]),
    (["nl", "letternumber"], ["Nl"]),
    (["no", "othernumber"], ["No"]),
    (["pc", "connectorpunctuation"], ["Pc"]),
    (["pd", "dashpunctuation"], ["Pd"]),
    (["ps", "openpunctuation"], ["Ps"]),
    (["pe", "closepunctuation"], ["Pe"]),
    (["pi", "initialpunctuation"], ["Pi"]),
    (["pf", "finalpunctuation"], ["Pf"]),
    (["po", "otherpunctuation"], ["Po"]),
    (["sm", "mathsymbol"], ["Sm"]),
    (["sc", "currencysymbol"], ["Sc"]),
    (["sk", "modifiersymbol"], ["Sk"]),
    (["so", "othersymbol"], ["So"]),
    (["zs", "spaceseparator"], ["Zs"]),
    (["zl", "lineseparator"], ["Zl"]),
    (["zp", "paragraphseparator"], ["Zp"]),
    (["cc", "control", "cntrl"], ["Cc"]),
    (["cf", "format"], ["Cf"]),
    (["co", "privateuse"], ["Co"])
  ]

/-- The characters of some general categories. -/
def ofCategories (categories : List String) : CharSet :=
  CharSet.ofRanges <| (categoryTexts.filter fun c => categories.contains c.1).flatMap fun c =>
    CharSet.ofText c.2

/-- The code points that are assigned to a character or to private use. -/
def assigned : CharSet := CharSet.ofRanges (categoryTexts.flatMap fun c => CharSet.ofText c.2)

def surrogates : CharSet := [(0xD800, 0xDFFF)]

def unassigned : CharSet := CharSet.diff (CharSet.complement assigned) surrogates

/-- The set of a general category. -/
def category? (name : String) : Option CharSet :=
  if name = "any" then some [(0, CharSet.last)]
  else if name = "assigned" then some assigned
  else if name = "ascii" then some [(0, 0x7F)]
  else if ["cn", "unassigned"].contains name then some unassigned
  else if ["c", "other"].contains name then
    some (CharSet.union unassigned (ofCategories ["Cc", "Cf", "Co"]))
  else (categoryGroups.find? fun g => g.1.contains name).map fun g => ofCategories g.2

/-- The characters of a script. -/
def script? (name : String) : Option CharSet :=
  (scriptTexts.find? fun s => s.1.contains name).map fun s => CharSet.ofText s.2

/-- The characters that a script has, its own and those of no script. -/
def scriptExtensions? (name : String) : Option CharSet :=
  (scriptTexts.find? fun s => s.1.contains name).map fun s =>
    let key := s.1.headD ""
    let more := ((scriptExtensionTexts.lookup key).map CharSet.ofText).getD []
    let fewer := ((sharedTexts.lookup key).map CharSet.ofText).getD []
    CharSet.diff (CharSet.union (CharSet.ofText s.2) more) fewer

def letters : List String := ["Lu", "Ll", "Lt", "Lm", "Lo"]

def alphabetic : CharSet :=
  CharSet.union (ofCategories ("Nl" :: letters)) (CharSet.ofText otherAlphabeticText)

def lowercase : CharSet := CharSet.union (ofCategories ["Ll"]) (CharSet.ofText otherLowercaseText)

def uppercase : CharSet := CharSet.union (ofCategories ["Lu"]) (CharSet.ofText otherUppercaseText)

def whiteSpace : CharSet := CharSet.ofText "9-D 20 85 A0 1680 2000-200A 2028-2029 202F 205F 3000"

def idStart : CharSet :=
  CharSet.diff (CharSet.union (ofCategories ("Nl" :: letters)) (CharSet.ofText otherIdStartText))
    (CharSet.ofText notIdStartText)

def idContinue : CharSet :=
  CharSet.union idStart
    (CharSet.union (ofCategories ["Mn", "Mc", "Nd", "Pc"]) (CharSet.ofText otherIdContinueText))

/-- The characters of words: letters, marks, digits, connectors and joiners. -/
def wordCharacters : CharSet :=
  CharSet.union alphabetic
    (CharSet.union (ofCategories ["Mn", "Mc", "Me", "Nd", "Pc"]) [(0x200C, 0x200D)])

def digits : CharSet := ofCategories ["Nd"]

/-- The names of properties that are no categories, with their sets. -/
def property? (name : String) : Option CharSet :=
  match name with
  | "alpha" | "alphabetic" => some alphabetic
  | "lower" | "lowercase" => some lowercase
  | "upper" | "uppercase" => some uppercase
  | "cased" => some (CharSet.union lowercase (CharSet.union uppercase (ofCategories ["Lt"])))
  | "whitespace" | "wspace" | "space" => some whiteSpace
  | "ids" | "idstart" => some idStart
  | "idc" | "idcontinue" => some idContinue
  | "xids" | "xidstart" => some (CharSet.diff idStart (CharSet.ofText notXidStartText))
  | "xidc" | "xidcontinue" => some (CharSet.diff idContinue (CharSet.ofText notXidContinueText))
  | "math" => some (CharSet.union (ofCategories ["Sm"]) (CharSet.ofText otherMathText))
  | "dash" => some (CharSet.union (ofCategories ["Pd"]) (CharSet.ofText otherDashText))
  | "hex" | "hexdigit" => some (CharSet.ofText "30-39 41-46 61-66 FF10-FF19 FF21-FF26 FF41-FF46")
  | "ahex" | "asciihexdigit" => some (CharSet.ofText "30-39 41-46 61-66")
  | "ideo" | "ideographic" => some (CharSet.ofText ideographicText)
  | "emoji" => some (CharSet.ofText emojiText)
  | "ext" | "extender" => some (CharSet.ofText extenderText)
  | "dia" | "diacritic" => some (CharSet.ofText diacriticText)
  | "di" | "defaultignorablecodepoint" => some (CharSet.ofText defaultIgnorableText)
  | "joinc" | "joincontrol" => some [(0x200C, 0x200D)]
  | _ => none

/-- The set of a name that stands alone. -/
def setOfName? (name : List Char) : Option CharSet :=
  let name := looseName name
  ((property? name).or (category? name)).or (script? name)

/-- The set of a property with a value. -/
def setOfValue? (property value : List Char) : Option CharSet :=
  let value := looseName value
  match looseName property with
  | "gc" | "generalcategory" => category? value
  | "sc" | "script" => script? value
  | "scx" | "scriptextensions" => scriptExtensions? value
  | _ => none

end ReleaseGap.Pattern
