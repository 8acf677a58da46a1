import ReleaseGap.Files.Error
import ReleaseGap.Overrides.Table
import ReleaseGap.Text.Utf8

/-!
# Override tables in a stream

Four tables follow each other in one stream of octets, each closed by its end line.  What stands
behind the last end line is left unread, so it need not even be text.
-/

namespace ReleaseGap.Overrides

/-- The four tables of a run, in the order they are read. -/
structure Tables where
  /-- Labels by id, version and count, or by a name that was never released. -/
  knownRevisions : Table := {}
  /-- Repositories by plugin id; the repository `skip` suppresses a plugin. -/
  repositories : Table := {}
  /-- Tag rules by plugin id. -/
  tagRules : Table := {}
  /-- Plugins whose sources are on the git host, whatever the feed says. -/
  reallyGithub : Table := {}

/-- The octets cut behind every line feed; nothing is lost. -/
def octetLines : List UInt8 → List (List UInt8)
  | [] => []
  | b :: r =>
    if b = 10 then [10] :: octetLines r
    else match octetLines r with
      | [] => [[b]]
      | l :: ls => (b :: l) :: ls

/-- Reads lines into a table up to its end line, and answers the lines behind. -/
def Table.readLines (t : Table) :
    List (List UInt8) → Except Files.IoError (Table × List (List UInt8))
  | [] => .ok (t, [])
  | octets :: rest =>
    match Text.Utf8.decode? octets with
    | none => .error .notUtf8
    | some line =>
      if endsTable line.toList then .ok (t, rest)
      else readLines (t.addLine line.toList) rest

/-- Reads one table from a stream, and answers what it leaves. -/
def Table.readFrom (octets : List UInt8) : Except Files.IoError (Table × List UInt8) := do
  let (t, rest) ← Table.readLines {} (octetLines octets)
  return (t, rest.flatten)

/-- Reads the four tables, and answers what they leave. -/
def Tables.readFrom (octets : List UInt8) : Except Files.IoError (Tables × List UInt8) := do
  let (knownRevisions, octets) ← Table.readFrom octets
  let (repositories, octets) ← Table.readFrom octets
  let (tagRules, octets) ← Table.readFrom octets
  let (reallyGithub, octets) ← Table.readFrom octets
  return ({ knownRevisions, repositories, tagRules, reallyGithub }, octets)

theorem flatten_octetLines (octets : List UInt8) : (octetLines octets).flatten = octets := by
  induction octets with
  | nil => rfl
  | cons b r ih =>
    rw [octetLines]
    split
    · simp_all
    · split <;> rename_i h <;> rw [h] at ih <;> simp_all

end ReleaseGap.Overrides
