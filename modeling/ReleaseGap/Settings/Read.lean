import ReleaseGap.Settings.Basic
import ReleaseGap.Toml.Read

/-!
# Reading settings

Settings out of a document in sections.  Whatever is not said keeps its default, and what is not
asked for counts for nothing.  A section may also be an array of its values in order.
-/

namespace ReleaseGap.Settings

open Toml (Value)

/-- The values of the named fields. -/
def fields? (names : List String) : Value → Option (List (Option Value))
  | .table _ entries => some (names.map fun name => entries.lookup name)
  | .array _ items => some ((List.range names.length).map (items[·]?))
  | _ => none

/-- The text of a field, the default if it is missing. -/
def text? (default : String) : Option Value → Option String
  | none => some default
  | some (.text s) => some s
  | some _ => none

/-- The texts of a field that is an array of them. -/
def texts? (default : List String) : Option Value → Option (List String)
  | none => some default
  | some (.array _ items) => items.mapM fun v => text? "" (some v)
  | some _ => none

/-- The number of a field. -/
def number? (default : UInt64) : Option Value → Option UInt64
  | none => some default
  | some (.integer n) => if 0 ≤ n ∧ n < Nat.pow 2 64 then some (UInt64.ofInt n) else none
  | some _ => none

/-- A section by its reader, the default if the section is missing. -/
def section? {α : Type} (default : α) (read? : Value → Option α) : Option Value → Option α
  | none => some default
  | some v => read? v

def Feed.read? (v : Value) : Option Feed := do
  let d : Feed := {}
  match ← fields? ["url"] v with
  | [url] => return { url := ← text? d.url url }
  | _ => none

def Github.read? (v : Value) : Option Github := do
  let d : Github := {}
  let names :=
    ["api_url", "web_url", "raw_url", "organization", "compare_branch", "delay_secs"]
  match ← fields? names v with
  | [apiUrl, webUrl, rawUrl, organization, compareBranch, delaySeconds] =>
    return {
      apiUrl := ← text? d.apiUrl apiUrl
      webUrl := ← text? d.webUrl webUrl
      rawUrl := ← text? d.rawUrl rawUrl
      organization := ← text? d.organization organization
      compareBranch := ← text? d.compareBranch compareBranch
      delaySeconds := ← number? d.delaySeconds delaySeconds }
  | _ => none

def Svn.read? (v : Value) : Option Svn := do
  let d : Svn := {}
  match ← fields? ["command", "base_url", "tag_dirs", "plugins_path", "fisheye_url"] v with
  | [command, baseUrl, tagDirectories, pluginsPath, fisheyeUrl] =>
    return {
      command := ← text? d.command command
      baseUrl := ← text? d.baseUrl baseUrl
      tagDirectories := ← texts? d.tagDirectories tagDirectories
      pluginsPath := ← text? d.pluginsPath pluginsPath
      fisheyeUrl := ← text? d.fisheyeUrl fisheyeUrl }
  | _ => none

def Issues.read? (v : Value) : Option Issues := do
  let d : Issues := {}
  match ← fields? ["url", "project"] v with
  | [url, project] => return { url := ← text? d.url url, project := ← text? d.project project }
  | _ => none

def Wording.read? (v : Value) : Option Wording := do
  let d : Wording := {}
  match ← fields? ["ecosystem", "schedule"] v with
  | [ecosystem, schedule] =>
    return {
      ecosystem := ← text? d.ecosystem ecosystem
      schedule := ← text? d.schedule schedule }
  | _ => none

def Wiki.read? (v : Value) : Option Wiki := do
  let d : Wiki := {}
  match ← fields? ["rpc_url", "user", "space", "page", "password_file"] v with
  | [rpcUrl, user, space, page, passwordFile] =>
    return {
      rpcUrl := ← text? d.rpcUrl rpcUrl
      user := ← text? d.user user
      space := ← text? d.space space
      page := ← text? d.page page
      passwordFile := ← section? none (fun v => (text? "" (some v)).map some) passwordFile }
  | _ => none

/-- Reads settings. -/
def ofText? (document : String) : Option Settings := do
  let v ← Toml.read? document.toList
  match ← fields? ["feed", "github", "svn", "issues", "report", "wiki"] v with
  | [feed, github, svn, issues, report, wiki] =>
    return {
      feed := ← section? {} Feed.read? feed
      github := ← section? {} Github.read? github
      svn := ← section? {} Svn.read? svn
      issues := ← section? {} Issues.read? issues
      report := ← section? {} Wording.read? report
      wiki := ← section? {} Wiki.read? wiki }
  | _ => none

end ReleaseGap.Settings
