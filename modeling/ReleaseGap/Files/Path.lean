/-!
# Paths

Paths as texts with slashes.  Going up is lexical: it drops the last component of a path, whatever
it names, with the slashes and the single dots behind it.
-/

namespace ReleaseGap.Files

/-- Drops slashes and single dots at the end of a path, which is given backwards.  A root stays, and
so does a dot that the path begins with. -/
def dropTail : List Char → List Char
  | ['/'] => ['/']
  | '/' :: r => dropTail r
  | '.' :: '/' :: r => dropTail ('/' :: r)
  | s => s

/-- The path without its last component, if it has one. -/
def parent? (path : List Char) : Option (List Char) :=
  match dropTail path.reverse with
  | [] => none
  | ['/'] => none
  | s => some (dropTail (s.dropWhile (· ≠ '/'))).reverse

theorem length_dropTail_le (s : List Char) : (dropTail s).length ≤ s.length := by
  fun_induction dropTail s <;> simp_all <;> omega

/-- No path ends with a slash once its tail is dropped, unless it is the root. -/
theorem eq_nil_of_dropTail_eq {s r : List Char} (h : dropTail s = '/' :: r) : r = [] := by
  fun_induction dropTail s with
  | case1 => exact (List.cons.inj h).2.symm
  | case2 r' _ ih => exact ih h
  | case3 r' ih => exact ih h
  | case4 s hroot hslash =>
    subst h
    exact absurd rfl (hslash r)

theorem length_lt_of_parent? {path above : List Char} (h : parent? path = some above) :
    above.length < path.length := by
  rw [parent?] at h
  have hle := length_dropTail_le path.reverse
  rw [List.length_reverse] at hle
  split at h
  · cases h
  · cases h
  · rename_i s hnil hroot
    cases h
    rw [List.length_reverse]
    have h₁ := length_dropTail_le ((dropTail path.reverse).dropWhile (· ≠ '/'))
    cases hs : dropTail path.reverse with
    | nil => exact absurd hs hnil
    | cons c r =>
      rw [hs] at h₁ hle
      by_cases hc : c = '/'
      · subst hc
        exact absurd (eq_nil_of_dropTail_eq hs ▸ hs) hroot
      · have hw := (List.dropWhile_suffix (p := fun c => decide (c ≠ '/')) (l := r)).length_le
        rw [List.dropWhile_cons_of_pos (by simpa using hc)] at h₁ ⊢
        simp only [List.length_cons] at hle
        omega

/-- A path and all above it, from below. -/
def ancestors (path : List Char) : List (List Char) :=
  match _h : parent? path with
  | none => [path]
  | some above => path :: ancestors above
termination_by path.length
decreasing_by exact length_lt_of_parent? _h

/-- The path of a name below a path. -/
def join (path name : String) : String :=
  if path = "" then name
  else if path.toList.getLast? = some '/' then path ++ name
  else s!"{path}/{name}"

end ReleaseGap.Files
