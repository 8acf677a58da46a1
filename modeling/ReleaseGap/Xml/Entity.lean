/-!
# References in character data

The five predefined entities and numeric references, written and read.  A reference runs from an
ampersand to the next semicolon; another ampersand before it, or none, makes the text unreadable.
-/

namespace ReleaseGap.Xml

/-- The characters that are written as references. -/
def entityName? : Char → Option (List Char)
  | '<' => some "lt".toList
  | '>' => some "gt".toList
  | '&' => some "amp".toList
  | '\'' => some "apos".toList
  | '"' => some "quot".toList
  | _ => none

/-- One character as it is written in character data. -/
def escapeChar (c : Char) : List Char :=
  match entityName? c with
  | some name => '&' :: name ++ [';']
  | none => [c]

/-- Character data that reads back as the text. -/
def escape (s : List Char) : List Char := s.flatMap escapeChar

def hexValue? (c : Char) : Option Nat :=
  if '0' ≤ c && c ≤ '9' then some (c.toNat - '0'.toNat)
  else if 'a' ≤ c && c ≤ 'f' then some (c.toNat - 'a'.toNat + 10)
  else if 'A' ≤ c && c ≤ 'F' then some (c.toNat - 'A'.toNat + 10)
  else none

/-- The value of one or more digits in a base up to sixteen. -/
def digitsIn? (base : Nat) (s : List Char) : Option Nat :=
  if s.isEmpty then none
  else
    s.foldlM (fun n c => (hexValue? c).bind fun d =>
      if d < base then some (n * base + d) else none) 0

/-- The character with a code point; the null character and surrogates are none. -/
def charAt? (n : Nat) : Option Char :=
  if n ≠ 0 ∧ n.isValidChar then some (Char.ofNat n) else none

/-- The character a reference names, without its ampersand and semicolon. -/
def reference? (name : List Char) : Option Char :=
  match name with
  | '#' :: 'x' :: digits => (digitsIn? 16 digits).bind charAt?
  | '#' :: digits => (digitsIn? 10 digits).bind charAt?
  | _ =>
    match String.ofList name with
    | "lt" => some '<'
    | "gt" => some '>'
    | "amp" => some '&'
    | "apos" => some '\''
    | "quot" => some '"'
    | _ => none

/-- Resolves the references of character data.  `name` holds, backwards, what was read of a
reference since its ampersand. -/
def unescapeFrom? (name : Option (List Char)) : List Char → Option (List Char)
  | [] => if name.isNone then some [] else none
  | c :: r =>
    match name with
    | none => if c = '&' then unescapeFrom? (some []) r else (unescapeFrom? none r).map (c :: ·)
    | some n =>
      if c = ';' then do
        let d ← reference? n.reverse
        let rest ← unescapeFrom? none r
        return d :: rest
      else if c = '&' then none
      else unescapeFrom? (some (c :: n)) r

/-- The text that character data stands for. -/
def unescape? (s : List Char) : Option (List Char) := unescapeFrom? none s

theorem unescapeFrom?_escapeChar (c : Char) (r : List Char) :
    unescapeFrom? none (escapeChar c ++ r) = (unescapeFrom? none r).map (c :: ·) := by
  rw [escapeChar]
  split
  · rename_i name h
    simp only [entityName?] at h
    split at h <;> cases h <;>
      (simp only [List.cons_append, unescapeFrom?, if_true]
       cases hr : unescapeFrom? none r <;> simp [unescapeFrom?, reference?, hr])
  · rename_i h
    have hc : c ≠ '&' := by rintro rfl; simp [entityName?] at h
    simp [unescapeFrom?, hc]

/-- Reading undoes writing. -/
theorem unescape?_escape (s : List Char) : unescape? (escape s) = some s := by
  rw [unescape?, escape]
  induction s with
  | nil => rfl
  | cons c r ih => rw [List.flatMap_cons, unescapeFrom?_escapeChar, ih]; rfl

/-- Written character data holds no character that begins a tag. -/
theorem lt_notMem_escape (s : List Char) : '<' ∉ escape s := by
  simp only [escape, List.mem_flatMap, not_exists, not_and]
  intro c _
  rw [escapeChar]
  split
  · rename_i name h
    simp only [entityName?] at h
    split at h <;> cases h <;> simp
  · rename_i h
    simp only [List.mem_singleton]
    rintro rfl
    simp [entityName?] at h

end ReleaseGap.Xml
