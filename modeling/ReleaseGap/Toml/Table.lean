/-!
# TOML tables

The values of a document.  How a table came to be says how it can still be extended: one written in
braces not at all, one that only stands on the way to another by a header of its own, and one made
by a dotted key by further dotted keys.
-/

namespace ReleaseGap.Toml

/-- How a table came to be. -/
inductive Origin where
  /-- By a header, or as the document. -/
  | header
  /-- On the way to the table of a header. -/
  | implied
  /-- On the way to the value of a dotted key. -/
  | dotted
  /-- In braces. -/
  | inline
deriving DecidableEq, Repr

inductive Value where
  | text (s : String)
  | integer (n : Int)
  | other
  /-- The items of an array; `ofTables` if they are tables that headers in double brackets make. -/
  | array (ofTables : Bool) (items : List Value)
  | table (origin : Origin) (entries : List (String × Value))
deriving Inhabited

namespace Value

/-- Puts a value under a key, at its place if the key is there and behind the others if not. -/
def put (key : String) (value : Value) : List (String × Value) → List (String × Value)
  | [] => [(key, value)]
  | (k, v) :: rest => if k = key then (key, value) :: rest else (k, v) :: put key value rest

/-- Changes the last item of a list. -/
def onLast? (f : Value → Option Value) : List Value → Option (List Value)
  | [] => none
  | [v] => (f v).map ([·])
  | v :: rest => (onLast? f rest).map (v :: ·)

/-- The place that a value leads on to: itself if it is a table, and the last item if it is an array
of tables. -/
def onTable? (f : Value → Option Value) : Value → Option Value
  | .table origin entries => f (.table origin entries)
  | .array true items => (onLast? f items).map (.array true)
  | _ => none

/-- Whether a table may be passed through on the way to another; a dotted key only passes through
those that no header has made. -/
def isOpen (byDottedKey : Bool) : Value → Bool
  | .table .inline _ => false
  | .table .header _ => !byDottedKey
  | _ => true

/-- Changes the table at the end of a path and makes the tables on the way that are missing. -/
def extend? (byDottedKey : Bool) (f : Value → Option Value) : List String → Value → Option Value
  | [], v => f v
  | key :: path, .table origin entries => do
    let inner ← match entries.lookup key with
      | none => extend? byDottedKey f path (.table (if byDottedKey then .dotted else .implied) [])
      | some v =>
        match v with
        | .array true items =>
          (onLast? (extend? byDottedKey f path) items).map (.array true)
        | v => if v.isOpen byDottedKey then extend? byDottedKey f path v else none
    return .table origin (put key inner entries)
  | _ :: _, _ => none

/-- Changes the table that a header has made. -/
def within? (f : Value → Option Value) : List String → Value → Option Value
  | [], v => f v
  | key :: path, .table origin entries => do
    let inner ← onTable? (within? f path) (← entries.lookup key)
    return .table origin (put key inner entries)
  | _ :: _, _ => none

/-- Adds a new key to a table.  Behind a dotted key the table must be one made by such keys. -/
def addNew? (behindDots : Bool) (key : String) (value : Value) : Value → Option Value
  | .table origin entries =>
    if (origin == .dotted) = behindDots ∧ (entries.lookup key).isNone then
      some (.table origin (put key value entries))
    else none
  | _ => none

/-- Adds a value under a dotted key. -/
def addDotted? (path : List String) (key : String) (value : Value) (table : Value) :
    Option Value :=
  extend? true (addNew? (!path.isEmpty) key value) path table

/-- Makes the table of a header. -/
def addHeader? (key : String) : Value → Option Value
  | .table origin entries =>
    match entries.lookup key with
    | none => some (.table origin (put key (.table .header []) entries))
    | some (.table .implied inner) => some (.table origin (put key (.table .header inner) entries))
    | some _ => none
  | _ => none

/-- Adds a table to the array of a header in double brackets. -/
def addItem? (key : String) : Value → Option Value
  | .table origin entries =>
    match entries.lookup key with
    | none => some (.table origin (put key (.array true [.table .header []]) entries))
    | some (.array true items) =>
      some (.table origin (put key (.array true (items ++ [.table .header []])) entries))
    | some _ => none
  | _ => none

end Value

end ReleaseGap.Toml
