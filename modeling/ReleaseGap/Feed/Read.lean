import ReleaseGap.Feed.Plugin
import ReleaseGap.Json.Read
import ReleaseGap.Json.Record

/-!
# Reading the feed

The feed is a JSON document, bare or wrapped into the call of a script.  What is cut off to unwrap
it is the letters of that call, in any order.
-/

namespace ReleaseGap.Feed

open Json (Value)

/-- The characters that a wrapped feed has around its document. -/
def isWrapping (c : Char) : Bool := "updateCnr.os(); \t\n\r".toList.contains c

def unwrap (body : List Char) : List Char :=
  Text.dropEndWhile isWrapping (body.dropWhile isWrapping)

def entryOf? (v : Value) : Option FeedEntry := do
  match ← v.fields? ["version", "wiki", "releaseTimestamp", "scm"] with
  | [some version, wiki, releaseTimestamp, host] =>
    return {
      version := ← version.text?
      wiki := ← Value.optionalText? wiki
      releaseTimestamp := ← Value.optionalText? releaseTimestamp
      host := ← Value.optionalText? host }
  | _ => none

/-- The plugins of a feed by id.  Of a repeated id the last entry counts. -/
def read? (body : String) : Option (List (String × FeedEntry)) := do
  let document ← Json.read? (unwrap body.toList)
  match ← document.fields? ["plugins"] with
  | [some plugins] =>
    let entries ← (← plugins.members?).mapM fun (id, v) => (entryOf? v).map (id, ·)
    return Keyed.ofPairs entries
  | _ => none

end ReleaseGap.Feed
