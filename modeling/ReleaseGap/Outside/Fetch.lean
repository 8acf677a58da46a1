import ReleaseGap.Outside.Session
import ReleaseGap.Text.Utf8

/-!
# Fetching texts

A text is fetched with one request, or politely: a request that fails is repeated once, and then
given up, so that one bad answer never ends a run.
-/

namespace ReleaseGap

/-- The text of an answer.  A status from 400 to 599 is a failure; faulty octets are replaced. -/
def Reply.text? : Reply → Option String
  | .unreachable => none
  | .answered status body =>
    if 400 ≤ status ∧ status ≤ 599 then none else some (Text.Utf8.decodeLossy body)

namespace Session

def fetch (url : String) : Session (Option String) := do
  let reply ← ask (.get url)
  return reply.text?

def fetchPolitely (url : String) : Session (Option String) := do
  match ← fetch url with
  | some text => return some text
  | none => fetch url

end Session

end ReleaseGap
