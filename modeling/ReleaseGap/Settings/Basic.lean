import ReleaseGap.Text.Blank

/-!
# Settings

What a run and a publication can be told, in sections, with the values that hold where nothing is
said.
-/

namespace ReleaseGap

namespace Settings

/-- Where the plugin metadata comes from. -/
structure Feed where
  url : String := "http://updates.jenkins-ci.org/update-center.json"
deriving DecidableEq, Repr, Inhabited

/-- The git host. -/
structure Github where
  apiUrl : String := "https://api.github.com"
  webUrl : String := "https://github.com"
  /-- The root below which files are downloaded. -/
  rawUrl : String := "https://github.com"
  organization : String := "jenkinsci"
  /-- The branch that a release is compared with. -/
  compareBranch : String := "master"
  /-- The seconds to wait before a request. -/
  delaySeconds : UInt64 := 3
deriving DecidableEq, Repr, Inhabited

/-- The svn repository. -/
structure Svn where
  command : String := "svn"
  baseUrl : String := "https://svn.jenkins-ci.org"
  /-- The directories that hold tags, below the root. -/
  tagDirectories : List String :=
    ["tags", "tags/global-build-stats", "tags/scm-sync-configuration"]
  pluginsPath : String := "trunk/hudson/plugins"
  fisheyeUrl : String := "http://fisheye.jenkins-ci.org"
deriving DecidableEq, Repr, Inhabited

/-- The issue tracker that links lead to. -/
structure Issues where
  url : String := "http://issues.jenkins-ci.org/browse"
  project : String := "JENKINS"
deriving DecidableEq, Repr, Inhabited

/-- The wording of the report. -/
structure Wording where
  ecosystem : String := "Jenkins"
  schedule : String := "once per week"
deriving DecidableEq, Repr, Inhabited

/-- The wiki page that a report is stored as. -/
structure Wiki where
  rpcUrl : String := "https://wiki.jenkins-ci.org/rpc/xmlrpc"
  user : String := "jenkins"
  space : String := "jenkins"
  page : String := "Unreleased Plugin Changes"
  /-- The file with the password; without one it is looked for among the secrets. -/
  passwordFile : Option String := none
deriving DecidableEq, Repr, Inhabited

/-- The addresses of all tag directories. -/
def Svn.tagUrls (s : Svn) : List String := s.tagDirectories.map fun dir => s!"{s.baseUrl}/{dir}"

/-- The address of the directory with the plugins. -/
def Svn.pluginsUrl (s : Svn) : String := s!"{s.baseUrl}/{s.pluginsPath}"

end Settings

structure Settings where
  feed : Settings.Feed := {}
  github : Settings.Github := {}
  svn : Settings.Svn := {}
  issues : Settings.Issues := {}
  report : Settings.Wording := {}
  wiki : Settings.Wiki := {}
deriving DecidableEq, Repr, Inhabited

end ReleaseGap
