import Mathlib.Data.List.Infix
import ReleaseGap.Proofs.Files.Names
import ReleaseGap.Settings.Locate

/-!
# The nearest settings file

Of the settings files in a directory and above it the one in the deepest directory counts, if it can
be looked at at all.  Whatever else is wrong with it, it is not passed over for one further up, and
not for the defaults.  A file that cannot be looked at is passed over for both.
-/
namespace ReleaseGap

namespace Files.Tree

variable {t : Tree} {path : String}

theorem exists?_eq_true_iff : t.exists? path = true ↔ ∃ node, t.resolve path = .ok node := by
  rw [exists?]
  cases t.resolve path <;> simp

/-- What is read of what a path leads to. -/
theorem readText_of_resolve {node : Node} (h : t.resolve path = .ok node) :
    t.readText path = node.text := by
  rw [readText, h]
  rfl

theorem isAbsolute_currentPath (t : Tree) : IsAbsolute t.currentPath.toList := by
  simp [currentPath, IsAbsolute]

end Files.Tree

namespace Settings

open Files (Tree Node IsAbsolute)

variable {files : Tree} {start dir path : String}

theorem load_of_exists? (h : files.exists? path = true) :
    load files path =
      match files.readText path with
      | .error e => .error (.io e)
      | .ok content =>
        match ofText? content with
        | some settings => .ok settings
        | none => .error .malformed := by
  rw [load]
  simp only [h, Bool.true_eq_false, if_false]
  cases files.readText path with
  | error e => rfl
  | ok content => rfl

theorem locate_of_find? (h : (candidates start).find? files.exists? = some path) :
    locate files start = load files path := by
  rw [locate, h]

/-- A settings file that is there is used as it is, or is an error. -/
theorem locateOrDefault_of_find? (h : (candidates start).find? files.exists? = some path) :
    locateOrDefault files start = load files path := by
  rw [locateOrDefault, locate_of_find? h]
  simp only [load_of_exists? (List.find?_some h)]
  cases files.readText path with
  | error e => rfl
  | ok content =>
    simp only
    cases ofText? content <;> rfl

/-- What a settings file comes to, by what is found in its place. -/
def ofNode (node : Node) : Except SettingsError Settings :=
  match node.text with
  | .error e => .error (.io e)
  | .ok content =>
    match ofText? content with
    | some settings => .ok settings
    | none => .error .malformed

/-- What is found is not missing. -/
theorem ofNode_ne_notFound (node : Node) (path : String) :
    ofNode node ≠ .error (.notFound path) := by
  rw [ofNode]
  cases node.text with
  | error e => simp
  | ok content => cases hsettings : ofText? content <;> simp [hsettings]

theorem load_of_resolve {node : Node} (h : files.resolve path = .ok node) :
    load files path = ofNode node := by
  rw [load_of_exists? (Tree.exists?_eq_true_iff.2 ⟨node, h⟩), Tree.readText_of_resolve h, ofNode]

/-- The directories in which a settings file is looked for, from a directory up. -/
def directories (start : String) : List String :=
  (Files.ancestors start.toList).map String.ofList

/-- How many names lead to a directory. -/
def depth (dir : String) : Nat := (Files.names dir.toList).length

/-- Whether there is anything in the place of a directory's settings file that can be looked at. -/
def hasFile (files : Tree) (dir : String) : Bool := files.exists? (Files.join dir fileName)

/-- The deepest directory, from a directory up, that has a settings file to look at. -/
structure IsNearest (files : Tree) (start dir : String) : Prop where
  mem : dir ∈ directories start
  found : hasFile files dir = true
  deepest : ∀ other ∈ directories start, hasFile files other = true → depth other ≤ depth dir

theorem names_directories (h : IsAbsolute start.toList) :
    (directories start).map (fun dir => Files.names dir.toList)
      = (Files.names start.toList).inits.reverse := by
  rw [directories, List.map_map, ← Files.map_names_ancestors h]
  simp [Function.comp_def]

theorem isAbsolute_of_mem_directories (h : IsAbsolute start.toList) :
    ∀ dir ∈ directories start, IsAbsolute dir.toList := by
  intro dir hdir
  obtain ⟨path, hpath, rfl⟩ := List.mem_map.1 hdir
  rw [String.toList_ofList]
  exact Files.isAbsolute_of_mem_ancestors h hpath

theorem pairwise_depth_directories (h : IsAbsolute start.toList) :
    (directories start).Pairwise fun dir above => depth above < depth dir := by
  have hinits : ∀ l : List String,
      l.inits.reverse.Pairwise fun names above => above.length < names.length := by
    intro l
    rw [List.pairwise_reverse, List.pairwise_iff_getElem]
    intro i j hi hj hij
    rw [List.getElem_inits, List.getElem_inits, List.length_take, List.length_take]
    rw [List.length_inits] at hi hj
    omega
  have hnames := hinits (Files.names start.toList)
  rwa [← names_directories h, List.pairwise_map] at hnames

theorem find?_candidates (files : Tree) (start : String) :
    (candidates start).find? files.exists?
      = ((directories start).find? (hasFile files)).map (Files.join · fileName) := by
  have hcandidates : candidates start = (directories start).map (Files.join · fileName) := by
    rw [candidates, directories, List.map_map]
    rfl
  rw [hcandidates, List.find?_map]
  rfl

theorem find?_hasFile_eq_some_iff (h : IsAbsolute start.toList) :
    (directories start).find? (hasFile files) = some dir ↔ IsNearest files start dir := by
  have hpairwise := pairwise_depth_directories h
  rw [List.find?_eq_some_iff_append]
  constructor
  · rintro ⟨hfile, below, above, hsplit, hbelow⟩
    rw [hsplit] at hpairwise
    have habove := (List.pairwise_cons.1 (List.pairwise_append.1 hpairwise).2.1).1
    refine ⟨by simp [hsplit], hfile, fun other hother hotherFile => ?_⟩
    rw [hsplit, List.mem_append, List.mem_cons] at hother
    rcases hother with hother | rfl | hother
    · have hnone := hbelow other hother
      rw [hotherFile] at hnone
      cases hnone
    · exact Nat.le_refl _
    · exact Nat.le_of_lt (habove other hother)
  · rintro ⟨hmem, hfile, hdeepest⟩
    obtain ⟨below, above, hsplit⟩ := List.append_of_mem hmem
    rw [hsplit] at hpairwise
    refine ⟨hfile, below, above, hsplit, fun other hother => ?_⟩
    have hdeeper := (List.pairwise_append.1 hpairwise).2.2 other hother dir List.mem_cons_self
    have hother : other ∈ directories start := by simp [hsplit, hother]
    rw [Bool.not_eq_true']
    exact Bool.eq_false_iff.2 fun hotherFile =>
      Nat.not_le.2 hdeeper (hdeepest other hother hotherFile)

theorem IsNearest.locate (h : IsNearest files start dir) (habsolute : IsAbsolute start.toList) :
    let path := Files.join dir fileName
    ∃ node, files.resolve path = .ok node ∧ load files path = ofNode node ∧
      locate files start = load files path ∧ locateOrDefault files start = load files path := by
  have hfind := find?_candidates files start
  rw [(find?_hasFile_eq_some_iff habsolute).2 h, Option.map_some] at hfind
  obtain ⟨node, hnode⟩ := Tree.exists?_eq_true_iff.1 h.found
  exact ⟨node, hnode, load_of_resolve hnode, locate_of_find? hfind, locateOrDefault_of_find? hfind⟩

theorem locate_of_forall_hasFile (h : ∀ dir ∈ directories start, hasFile files dir = false) :
    locate files start = .error (.notFound (Files.join start fileName)) := by
  have hfind : (directories start).find? (hasFile files) = none :=
    List.find?_eq_none.2 fun dir hdir => by simp [h dir hdir]
  rw [locate, find?_candidates, hfind, Option.map_none]

/-- Either there is a nearest settings file or there is none at all. -/
theorem exists_isNearest_or (files : Tree) (h : IsAbsolute start.toList) :
    (∃ dir, IsNearest files start dir) ∨ ∀ dir ∈ directories start, hasFile files dir = false := by
  cases hfind : (directories start).find? (hasFile files) with
  | none =>
    refine .inr fun dir hdir => ?_
    simpa using List.find?_eq_none.1 hfind dir hdir
  | some dir => exact .inl ⟨dir, (find?_hasFile_eq_some_iff h).1 hfind⟩

/-- Settings are looked for in a directory and in those that its name leads through, and the file of
the deepest one that has any to look at decides.  If it is a directory, cannot be read, is no text
or says what settings cannot be, then this is an error; it hides what lies further up.  Where no
file can be looked at the settings are missing, and the defaults hold. -/
theorem nearest_file_decides (files : Tree) {start : String} (h : IsAbsolute start.toList) :
    (directories start).map (fun dir => Files.names dir.toList)
      = (Files.names start.toList).inits.reverse ∧
    (∀ dir ∈ directories start, IsAbsolute dir.toList) ∧
    (∀ dir, IsNearest files start dir →
      let path := Files.join dir fileName
      ∃ node, files.resolve path = .ok node ∧ load files path = ofNode node ∧
        locate files start = load files path ∧ locateOrDefault files start = load files path) ∧
    (∀ path, locate files start = .error (.notFound path) ↔
      path = Files.join start fileName ∧ ∀ dir ∈ directories start, hasFile files dir = false) ∧
    ((∃ dir, IsNearest files start dir) ∨
      (∀ dir ∈ directories start, hasFile files dir = false) ∧
        locateOrDefault files start = .ok {}) := by
  refine ⟨names_directories h, isAbsolute_of_mem_directories h, fun dir hdir => hdir.locate h,
    fun path => ⟨?missing, ?found⟩,
    (exists_isNearest_or files h).imp_right fun hnone => ⟨hnone, ?default⟩⟩
  case missing =>
    intro hmissing
    rcases exists_isNearest_or files h with ⟨dir, hdir⟩ | hnone
    · obtain ⟨node, -, hnode, hlocate, -⟩ := hdir.locate h
      exact absurd (hnode.symm.trans (hlocate.symm.trans hmissing)) (ofNode_ne_notFound node path)
    · rw [locate_of_forall_hasFile hnone] at hmissing
      cases hmissing
      exact ⟨rfl, hnone⟩
  case found =>
    rintro ⟨rfl, hnone⟩
    exact locate_of_forall_hasFile hnone
  case default => rw [locateOrDefault, locate_of_forall_hasFile hnone]

/-- A settings file that may not be read, below one that may. -/
def lockedBelow : Tree where
  nodes := [
    (["unreleased.toml"], .file (Text.Utf8.encode "[report]\necosystem = \"Hudson\"\n")),
    (["a", "unreleased.toml"], .locked),
    (["a", "b"], .directory)]
  current := ["a", "b"]

theorem nearest_file_decides_sample :
    IsNearest lockedBelow lockedBelow.currentPath "/a" ∧
    locateOrDefault lockedBelow lockedBelow.currentPath = .error (.io .denied) ∧
    load lockedBelow "/unreleased.toml" = .ok { report := { ecosystem := "Hudson" } } := by
  obtain ⟨-, -, hnearest, -, -⟩ :=
    nearest_file_decides lockedBelow lockedBelow.isAbsolute_currentPath
  have hdir : IsNearest lockedBelow lockedBelow.currentPath "/a" :=
    ⟨by decide +kernel, by decide +kernel, by decide +kernel⟩
  obtain ⟨node, hnode, hload, -, hlocate⟩ := hnearest "/a" hdir
  have hlocked : lockedBelow.resolve "/a/unreleased.toml" = .ok .locked := by decide +kernel
  obtain rfl : node = .locked := Except.ok.inj (hnode.symm.trans hlocked)
  exact ⟨hdir, hlocate.trans hload, by decide +kernel⟩

/-- A directory that may not be searched, with a settings file in it and perhaps one above. -/
def shutBelow (above : List (List String × Files.Node)) : Tree where
  nodes := above ++ [
    (["a"], .directory false),
    (["a", "unreleased.toml"], .file (Text.Utf8.encode "[report]\necosystem = \"Near\"\n"))]
  current := ["a"]

/-- A settings file that cannot be looked at is passed over, for one further up and for the
defaults: here for want of the right to search the directory that it is in. -/
theorem nearest_file_passed_over :
    let above : Files.Node := .file (Text.Utf8.encode "[report]\necosystem = \"Far\"\n")
    let masked := shutBelow [(["unreleased.toml"], above)]
    masked.currentPath = "/a" ∧
    (∃ octets, masked.at? ["a", "unreleased.toml"] = some (.file octets)) ∧
    load masked "/a/unreleased.toml" = .error (.notFound "/a/unreleased.toml") ∧
    locate masked masked.currentPath = .ok { report := { ecosystem := "Far" } } ∧
    (∃ octets, (shutBelow []).at? ["a", "unreleased.toml"] = some (.file octets)) ∧
    locate (shutBelow []) "/a" = .error (.notFound "/a/unreleased.toml") ∧
    locateOrDefault (shutBelow []) "/a" = .ok {} := by
  refine ⟨by decide +kernel, ⟨_, rfl⟩, by decide +kernel, by decide +kernel, ⟨_, rfl⟩,
    by decide +kernel, by decide +kernel⟩

end Settings
end ReleaseGap
