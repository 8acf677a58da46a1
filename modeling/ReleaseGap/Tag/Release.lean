import ReleaseGap.Version.Loose

/-!
# Releases

The point of the history a release was cut from, and the choice of the latest release among tagged
versions.
-/

namespace ReleaseGap

/-- A tag and what it refers to: a commit, or the revision the tag was made in. -/
structure Tag where
  name : String
  reference : String
deriving DecidableEq, Repr

structure Release where
  version : String
  tag : Tag
deriving DecidableEq, Repr

namespace Release

variable {α : Type}

/-- Adds a candidate.  A version that was there keeps its place and takes the new tag. -/
def addCandidate (version : String) (tag : α) : List (String × α) → List (String × α)
  | [] => [(version, tag)]
  | (v, t) :: rest =>
    if v = version then (v, tag) :: rest else (v, t) :: addCandidate version tag rest

/-- The candidates without repeated versions. -/
def distinct (candidates : List (String × α)) : List (String × α) :=
  candidates.foldl (fun seen c => addCandidate c.1 c.2 seen) []

/-- The better of the best so far and a candidate: only a greater version replaces another. -/
def better (best : Option (String × α)) (candidate : String × α) : Option (String × α) :=
  match best with
  | none => some candidate
  | some b =>
    if Version.compareLoosely candidate.1 b.1 = .gt then some candidate else some b

/-- The candidate with the greatest version; of equal versions the first, with the tag seen last. -/
def latest? (candidates : List (String × α)) : Option (String × α) :=
  (distinct candidates).foldl better none

end Release

end ReleaseGap
