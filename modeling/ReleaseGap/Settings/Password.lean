import ReleaseGap.Settings.Locate

/-!
# The wiki password

The password is the first line of a file, which the settings name or which lies in the directory of
secrets.
-/

namespace ReleaseGap.Settings

/-- The path of the file with the password. -/
def Wiki.passwordPath (w : Wiki) (secrets : Option String) : Except SettingsError String :=
  match w.passwordFile, secrets with
  | some path, _ => .ok path
  | none, some dir => .ok (Files.join dir "pwfile")
  | none, none => .error .passwordUnset

/-- The first line of a text without the blanks at its end. -/
def firstLine (content : String) : String :=
  String.ofList (Text.trimEnd ((Text.lines content.toList).headD []))

/-- Reads the password. -/
def Wiki.readPassword (w : Wiki) (files : Files.Tree) (secrets : Option String) :
    Except SettingsError String := do
  let path ← w.passwordPath secrets
  let content ← (files.readText path).mapError .io
  return firstLine content

end ReleaseGap.Settings
