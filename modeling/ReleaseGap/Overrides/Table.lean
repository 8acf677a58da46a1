import ReleaseGap.Keyed
import ReleaseGap.Text.Cut

/-!
# Override tables

The tables by which an operator corrects a run.  A table is written line by line: a key, and a text
behind the first bar if the line has one.  Comments begin with a hash, blank lines count for
nothing, the last line for a key counts, and a line of hyphens ends the table.
-/

namespace ReleaseGap.Overrides

/-- What a table says about a key. -/
inductive Entry where
  /-- A bare key, of which only the presence counts. -/
  | marker
  | text (text : String)
deriving DecidableEq, Repr

/-- The text of an entry, empty for a bare key. -/
def Entry.content : Entry → String
  | .marker => ""
  | .text s => s

/-- One override table. -/
structure Table where
  entries : List (String × Entry) := []
  isOrdered : Keyed.IsOrdered entries := by exact Keyed.isOrdered_nil

/-- The characters that begin a line behind the last of a table. -/
def tableEnd : List Char := "----".toList

def endsTable (line : List Char) : Bool := tableEnd.isPrefixOf line

/-- What a line holds besides its comment and the blanks around. -/
def lineContent (line : List Char) : List Char :=
  Text.trim (line.takeWhile (· ≠ '#'))

/-- The key and the entry that a line gives, if it gives one. -/
def entryOfLine? (line : List Char) : Option (String × Entry) :=
  let content := lineContent line
  if content.isEmpty then none
  else match Text.splitFirst? '|' content with
    | some (key, value) =>
      some (String.ofList (Text.trimEnd key), .text (String.ofList (Text.trimStart value)))
    | none => some (String.ofList content, .marker)

namespace Table

instance : Inhabited Table := ⟨{}⟩

def insert (t : Table) (key : String) (entry : Entry) : Table :=
  ⟨Keyed.insert key entry t.entries, Keyed.isOrdered_insert t.isOrdered⟩

def erase (t : Table) (key : String) : Table :=
  ⟨Keyed.erase key t.entries, Keyed.isOrdered_erase t.isOrdered⟩

def get? (t : Table) (key : String) : Option Entry := Keyed.find? key t.entries

def contains (t : Table) (key : String) : Bool := (t.get? key).isSome

/-- The text under a key; a bare key has none. -/
def text? (t : Table) (key : String) : Option String :=
  match t.get? key with
  | some (.text s) => some s
  | _ => none

/-- The entry of a key together with the table without it. -/
def take (t : Table) (key : String) : Option Entry × Table := (t.get? key, t.erase key)

/-- The table without some keys. -/
def eraseAll (t : Table) (keys : List String) : Table := keys.foldl erase t

/-- Puts a text under a key that has no entry yet. -/
def seed (t : Table) (key text : String) : Table :=
  if t.contains key then t else t.insert key (.text text)

def size (t : Table) : Nat := t.entries.length

def isEmpty (t : Table) : Bool := t.entries.isEmpty

/-- Adds the entry of a line. -/
def addLine (t : Table) (line : List Char) : Table :=
  match entryOfLine? line with
  | some (key, entry) => t.insert key entry
  | none => t

/-- The table that some lines give. -/
def ofLines (lines : List (List Char)) : Table := lines.foldl addLine {}

/-- The table of a text, up to the line that ends it. -/
def ofText (text : String) : Table :=
  ofLines ((Text.lines text.toList).takeWhile (!endsTable ·))

theorem get?_insert (t : Table) (key key' : String) (entry : Entry) :
    (t.insert key entry).get? key' = if key = key' then some entry else t.get? key' :=
  Keyed.find?_insert key key' entry t.entries

theorem get?_erase (t : Table) (key key' : String) :
    (t.erase key).get? key' = if key = key' then none else t.get? key' :=
  Keyed.find?_erase t.isOrdered key key'

theorem eraseAll_append (t : Table) (keys keys' : List String) :
    t.eraseAll (keys ++ keys') = (t.eraseAll keys).eraseAll keys' := List.foldl_append

theorem entries_eraseAll (t : Table) (keys : List String) :
    (t.eraseAll keys).entries = t.entries.filter fun e => !keys.contains e.1 := by
  induction keys generalizing t with
  | nil => exact (List.filter_eq_self.2 fun _ _ => rfl).symm
  | cons key keys ih =>
    change ((t.erase key).eraseAll keys).entries = _
    rw [ih]
    change (Keyed.erase key t.entries).filter _ = _
    rw [Keyed.erase_eq_filter t.isOrdered, List.filter_filter]
    refine List.filter_congr fun e _ => ?_
    by_cases h : e.1 = key <;> simp [h]

theorem get?_seed (t : Table) (key text key' : String) :
    (t.seed key text).get? key'
      = if key = key' then some ((t.get? key).getD (.text text)) else t.get? key' := by
  rw [seed, contains]
  cases h : t.get? key with
  | none =>
    simp only [Option.isSome_none, Bool.false_eq_true, if_false, get?_insert, Option.getD_none]
  | some e =>
    simp only [Option.isSome_some, if_true, Option.getD_some]
    split
    · rename_i hk
      rw [← hk, h]
    · rfl

@[ext] theorem ext_get? {a b : Table} (h : ∀ key, a.get? key = b.get? key) : a = b := by
  obtain ⟨a, ha⟩ := a
  obtain ⟨b, hb⟩ := b
  cases Keyed.ext_find? ha hb h
  rfl

theorem erase_eq_self {t : Table} {key : String} (h : t.get? key = none) : t.erase key = t := by
  ext k : 1
  rw [get?_erase]
  split
  · rename_i hk
    rw [← hk, h]
  · rfl

theorem get?_eraseAll (t : Table) (keys : List String) (key : String) :
    (t.eraseAll keys).get? key = if key ∈ keys then none else t.get? key := by
  induction keys generalizing t with
  | nil => rfl
  | cons first keys ih =>
    change ((t.erase first).eraseAll keys).get? key = _
    rw [ih, get?_erase]
    by_cases hfirst : first = key <;> by_cases hkeys : key ∈ keys <;>
      simp [hfirst, hkeys, Ne.symm]

theorem erase_comm (t : Table) (key key' : String) :
    (t.erase key).erase key' = (t.erase key').erase key := by
  ext k : 1
  simp only [get?_erase]
  split <;> split <;> rfl

end Table

end ReleaseGap.Overrides
