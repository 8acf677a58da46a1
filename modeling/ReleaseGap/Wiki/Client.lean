import ReleaseGap.Outside.Fetch
import ReleaseGap.Settings.Password
import ReleaseGap.XmlRpc.Response

/-!
# The wiki

Remote calls to a wiki, and the publication of a text as the content of a page: the page is fetched
with all it holds, only its content is replaced, and it is stored again.
-/

namespace ReleaseGap.Wiki

open XmlRpc (Value)

/-- Why a publication fails. -/
inductive WikiError where
  | unavailable
  | response (e : XmlRpc.ResponseError)
  | noToken
  | noPage
  | settings (e : Settings.SettingsError)
deriving DecidableEq, Repr

def WikiError.message : WikiError → String
  | .unavailable => "the wiki does not answer"
  | .response e => e.message
  | .noToken => "invalid XML-RPC response: login did not return a token"
  | .noPage => "invalid XML-RPC response: getPage did not return a page"
  | .settings e => s!"config error: {e.message}"

/-- Calls a remote method. -/
def call (rpcUrl method : String) (parameters : List Value) :
    Session (Except WikiError Value) := do
  let reply ← Session.ask (.post rpcUrl (XmlRpc.methodCall method parameters))
  match reply.text? with
  | none => return .error .unavailable
  | some body => return (XmlRpc.readResponse body).mapError .response

/-- Logs in, and answers the token for further calls. -/
def login (rpcUrl user password : String) : Session (Except WikiError String) := do
  match ← call rpcUrl "confluence1.login" [.string user, .string password] with
  | .error e => return .error e
  | .ok v =>
    match v.text? with
    | some token => return .ok token
    | none => return .error .noToken

/-- Fetches a page. -/
def getPage (rpcUrl token space title : String) :
    Session (Except WikiError (List (String × Value))) := do
  match ← call rpcUrl "confluence1.getPage" [.string token, .string space, .string title] with
  | .error e => return .error e
  | .ok v =>
    match v.members? with
    | some page => return .ok page
    | none => return .error .noPage

/-- Stores a page. -/
def storePage (rpcUrl token : String) (page : List (String × Value)) :
    Session (Except WikiError Value) :=
  call rpcUrl "confluence1.storePage" [.string token, .struct page]

/-- A page with other content. -/
def withContent (content : String) (page : List (String × Value)) : List (String × Value) :=
  Keyed.insert "content" (.string content) page

/-- Replaces the content of the page in the settings, given the password or why there is none. -/
def publish (s : Settings.Wiki) (password : Except Settings.SettingsError String)
    (content : String) : Session (Except WikiError Unit) := do
  match password with
  | .error e => return .error (.settings e)
  | .ok password =>
    match ← login s.rpcUrl s.user password with
    | .error e => return .error e
    | .ok token =>
      match ← getPage s.rpcUrl token s.space s.page with
      | .error e => return .error e
      | .ok page =>
        return (← storePage s.rpcUrl token (withContent content page)).map fun _ => ()

end ReleaseGap.Wiki
