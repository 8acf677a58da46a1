import ReleaseGap.Json.Read
import ReleaseGap.Json.Record
import ReleaseGap.Outside.Session
import ReleaseGap.Text.Cut
import ReleaseGap.Text.Utf8

/-!
# Snapshots of the outside

Saved answers, so that a session can be run again without its servers.  The answers of one address
are given in their order, and the last of them again and again.
-/

namespace ReleaseGap

def Request.url : Request → String
  | .get url => url
  | .post url _ => url

structure Snapshot where
  /-- The answers by address. -/
  replies : List (String × List Reply) := []
  /-- What comes of calls of `svn`, by their arguments. -/
  outcomes : List (String × Outcome) := []

namespace Snapshot

/-- Whether a question is a request for an address. -/
def asksFor (url : String) : Question → Bool
  | .request r => r.url == url
  | .call _ => false

/-- The world that answers out of a snapshot.  An address without an answer is not found, and a call
without a saved outcome fails. -/
def world (s : Snapshot) : World where
  reply past r :=
    let replies := (s.replies.lookup r.url).getD []
    (replies[past.countP (asksFor r.url)]?.or replies.getLast?).getD (.answered 404 [])
  outcome _ c :=
    if c.command = "svn" then
      (s.outcomes.lookup (Text.joinWith " " c.arguments)).getD
        (.exited 1 [] (Text.Utf8.encode "unexpected arguments"))
    else .notFound

open Json (Value)

/-- The bodies saved for one address. -/
def replies? (v : Value) : Option (List Reply) := do
  (← v.items?).mapM fun body => body.text?.map fun text => .answered 200 (Text.Utf8.encode text)

/-- The output saved for one call. -/
def outcome? (v : Value) : Option Outcome :=
  v.text?.map fun text => .exited 0 (Text.Utf8.encode text) []

/-- The members of a field that may be missing, each read. -/
def members? {α : Type} (read? : Value → Option α) : Option Value → Option (List (String × α))
  | none => some []
  | some v => do (← v.members?).mapM fun (key, v) => (read? v).map (key, ·)

/-- Reads a snapshot: the bodies by address, and the outputs of calls by their arguments. -/
def ofText? (document : String) : Option Snapshot := do
  match ← (← Json.read? document.toList).fields? ["http", "svn"] with
  | [http, svn] => return ⟨← members? replies? http, ← members? outcome? svn⟩
  | _ => none

end Snapshot

end ReleaseGap
