import Mathlib.Data.List.Infix
import Mathlib.Tactic.Common
import ReleaseGap.Files.Path
import ReleaseGap.Proofs.Text.Cutting

/-!
# The names in a path

Going up from an absolute path takes the last of its names away, one after the other until none is
left.  The slashes and single dots between the names make no difference.
-/
namespace ReleaseGap.Files

/-- The names in a path.  Nothing between two slashes is no name, and neither is a single dot. -/
def names (path : List Char) : List String :=
  ((Text.fields '/' path).map String.ofList).filter fun name => name ≠ "" ∧ name ≠ "."

theorem names_append (a b : List Char) : names (a ++ '/' :: b) = names a ++ names b := by
  simp only [names, Text.fields_append, List.map_append, List.filter_append]

theorem names_of_notMem {name : List Char} (hslash : '/' ∉ name) (hne : name ≠ [])
    (hdot : name ≠ ['.']) : names name = [String.ofList name] := by
  have hfields : Text.fields '/' name = [name] := Text.fields_of_notMem hslash
  have hname : String.ofList name ≠ "" ∧ String.ofList name ≠ "." := by
    constructor <;> intro h <;> have hlist := congrArg String.toList h
    · exact hne (by simpa using hlist)
    · exact hdot (by simpa using hlist)
  simp [names, hfields, hname]

theorem names_dropTail (s : List Char) : names (dropTail s).reverse = names s.reverse := by
  fun_induction dropTail s with
  | case1 => rfl
  | case2 r _ ih =>
    rw [ih, List.reverse_cons, names_append]
    exact (List.append_nil _).symm
  | case3 r ih =>
    have hdot : names ['.'] = names [] := by decide
    rw [ih, List.reverse_cons, List.reverse_cons, List.reverse_cons, List.append_assoc,
      List.singleton_append, names_append, names_append, hdot]
  | case4 => rfl

theorem getLast?_dropTail (s : List Char) : (dropTail s).getLast? = s.getLast? := by
  fun_induction dropTail s with
  | case1 => rfl
  | case2 r hr ih => rw [ih, List.getLast?_cons_of_ne_nil fun h => hr h]
  | case3 r ih => rw [ih]; rfl
  | case4 => rfl

theorem dropTail_ne_dot_slash (s r : List Char) : dropTail s ≠ '.' :: '/' :: r := by
  fun_induction dropTail s with
  | case1 => exact fun h => by cases h
  | case2 r' _ ih => exact ih
  | case3 r' ih => exact ih
  | case4 s _ _ hdot =>
    rintro rfl
    exact hdot r rfl

/-- An absolute path begins at the root. -/
def IsAbsolute (path : List Char) : Prop := path.head? = some '/'

instance (path : List Char) : Decidable (IsAbsolute path) :=
  inferInstanceAs (Decidable (path.head? = some '/'))

variable {path above : List Char}

theorem IsAbsolute.getLast?_dropTail (h : IsAbsolute path) :
    (dropTail path.reverse).getLast? = some '/' := by
  rw [Files.getLast?_dropTail, List.getLast?_reverse]
  exact h

/-- Without its tail a path that is not the root ends with a name, which a slash stands before. -/
theorem exists_last_name {t : List Char} (hlast : (dropTail t).getLast? = some '/')
    (hroot : dropTail t ≠ ['/']) :
    ∃ name r, dropTail t = name.reverse ++ '/' :: r ∧
      (dropTail t).dropWhile (· ≠ '/') = '/' :: r ∧
      '/' ∉ name ∧ name ≠ [] ∧ name ≠ ['.'] := by
  have hmem : '/' ∈ dropTail t := List.mem_of_getLast? hlast
  have hbehind : (dropTail t).dropWhile (· ≠ '/') ≠ [] :=
    fun h => absurd (List.dropWhile_eq_nil_iff.1 h '/' hmem) (by decide)
  obtain ⟨r, hr⟩ : ∃ r, (dropTail t).dropWhile (· ≠ '/') = '/' :: r := by
    obtain ⟨c, r, hcons⟩ := List.exists_cons_of_ne_nil hbehind
    have hc := Text.any_head?_dropWhile (fun c => decide (c ≠ '/')) (dropTail t)
    rw [hcons] at hc
    obtain rfl : c = '/' := by simpa using hc
    exact ⟨r, hcons⟩
  have hsplit : dropTail t = (dropTail t).takeWhile (· ≠ '/') ++ '/' :: r := by
    rw [← hr, List.takeWhile_append_dropWhile]
  refine ⟨((dropTail t).takeWhile (· ≠ '/')).reverse, r, by rwa [List.reverse_reverse], hr,
    fun h => ?slash, fun h => ?empty, fun h => ?dot⟩
  case slash => simpa using List.mem_takeWhile_imp (List.mem_reverse.1 h)
  case empty =>
    rw [List.reverse_eq_nil_iff] at h
    rw [h, List.nil_append] at hsplit
    rw [eq_nil_of_dropTail_eq hsplit] at hsplit
    exact hroot hsplit
  case dot =>
    rw [List.reverse_eq_iff] at h
    rw [h] at hsplit
    exact dropTail_ne_dot_slash t r hsplit

/-- Above the root there is nothing. -/
theorem names_of_parent?_eq_none (h : IsAbsolute path) (hparent : parent? path = none) :
    names path = [] := by
  have hlast := h.getLast?_dropTail
  have hnames := names_dropTail path.reverse
  rw [parent?] at hparent
  split at hparent
  · rename_i hnil
    rw [hnil] at hlast
    cases hlast
  · rename_i hroot
    rw [hroot, List.reverse_reverse] at hnames
    exact hnames.symm
  · cases hparent

/-- Going up takes the last name away. -/
theorem names_of_parent?_eq_some (h : IsAbsolute path) (hparent : parent? path = some above) :
    IsAbsolute above ∧ ∃ name, names path = names above ++ [name] := by
  rw [parent?] at hparent
  split at hparent
  · cases hparent
  · cases hparent
  · rename_i s _ hroot
    cases hparent
    obtain ⟨name, r, hpath, habove, hslash, hne, hdot⟩ :=
      exists_last_name h.getLast?_dropTail fun heq => hroot heq
    rw [habove]
    have hlast : (dropTail ('/' :: r)).getLast? = some '/' := by
      rw [Files.getLast?_dropTail]
      have hend := h.getLast?_dropTail
      rwa [hpath, List.getLast?_append_of_ne_nil _ (List.cons_ne_nil _ _)] at hend
    refine ⟨by rwa [IsAbsolute, List.head?_reverse], String.ofList name, ?_⟩
    have hend : names ('/' :: r).reverse = names r.reverse := by
      rw [List.reverse_cons, names_append]
      exact List.append_nil _
    calc names path
        = names (name.reverse ++ '/' :: r).reverse := by
          rw [← hpath, names_dropTail, List.reverse_reverse]
      _ = names (r.reverse ++ '/' :: name) := by simp
      _ = names r.reverse ++ [String.ofList name] := by
          rw [names_append, names_of_notMem hslash hne hdot]
      _ = names (dropTail ('/' :: r)).reverse ++ [String.ofList name] := by
          rw [names_dropTail, hend]

theorem isAbsolute_of_mem_ancestors (h : IsAbsolute path) {dir : List Char}
    (hdir : dir ∈ ancestors path) : IsAbsolute dir := by
  fun_induction ancestors path with
  | case1 path _ =>
    obtain rfl : dir = path := by simpa using hdir
    exact h
  | case2 path above hparent ih =>
    rcases List.mem_cons.1 hdir with rfl | hdir
    · exact h
    · exact ih (names_of_parent?_eq_some h hparent).1 hdir

/-- The directories from an absolute path up have the beginnings of its names, the longest first. -/
theorem map_names_ancestors (h : IsAbsolute path) :
    (ancestors path).map names = (names path).inits.reverse := by
  fun_induction ancestors path with
  | case1 path hparent =>
    rw [List.map_singleton, names_of_parent?_eq_none h hparent]
    rfl
  | case2 path above hparent ih =>
    obtain ⟨habove, name, hname⟩ := names_of_parent?_eq_some h hparent
    rw [List.map_cons, ih habove, hname, List.inits_append]
    simp

end ReleaseGap.Files
