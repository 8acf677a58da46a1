import ReleaseGap.Files.Tree
import ReleaseGap.Settings.Read

/-!
# Locating settings

The settings file of a directory is the one in it or in the nearest directory above.  A file that
can be looked at counts, readable or not; one that cannot be looked at is passed over.
-/

namespace ReleaseGap.Settings

open Files (Tree IoError)

/-- Why there are no settings. -/
inductive SettingsError where
  | notFound (path : String)
  /-- The file is no document or says what settings cannot be. -/
  | malformed
  | passwordUnset
  | io (e : IoError)
deriving DecidableEq, Repr

def SettingsError.message : SettingsError → String
  | .notFound path => s!"configuration file not found: {path}"
  | .malformed => "invalid TOML"
  | .passwordUnset =>
    "invalid configuration: wiki.password_file is not set and SECRET_DIR is unset"
  | .io e => s!"IO error: {e.message}"

/-- The name of settings files. -/
def fileName : String := "unreleased.toml"

/-- Loads a settings file. -/
def load (files : Tree) (path : String) : Except SettingsError Settings := do
  if files.exists? path = false then throw (.notFound path)
  let content ← (files.readText path).mapError .io
  match ofText? content with
  | some settings => return settings
  | none => throw .malformed

/-- The paths at which a settings file is looked for from a directory on, the nearest first. -/
def candidates (start : String) : List String :=
  (Files.ancestors start.toList).map fun dir => Files.join (String.ofList dir) fileName

/-- Loads the nearest settings file from a directory on. -/
def locate (files : Tree) (start : String) : Except SettingsError Settings :=
  match (candidates start).find? files.exists? with
  | some path => load files path
  | none => .error (.notFound (Files.join start fileName))

/-- The settings that hold in a directory: the defaults if there is no file. -/
def locateOrDefault (files : Tree) (start : String) : Except SettingsError Settings :=
  match locate files start with
  | .error (.notFound _) => .ok {}
  | result => result

end ReleaseGap.Settings
