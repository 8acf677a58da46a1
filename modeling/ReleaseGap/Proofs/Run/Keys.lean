import Mathlib
import ReleaseGap.Proofs.Run.Items
import ReleaseGap.Proofs.Run.PlainVersion

/-!
# Keys of known revisions

The key of a released plugin is its id, its version and a number with hyphens between them.  The
last hyphen stands before the number, so that none is the key of a name that was never released.
What is before it can be read in two ways where an id and a version have hyphens in them: as an id
and a version, and as a longer id and the rest of the version.  Without hyphens in versions plugins
with different ids have different keys.
-/
namespace ReleaseGap

theorem isDigit_of_mem_toString {n : Nat} {c : Char} (h : c ∈ (toString n).toList) :
    c.isDigit = true :=
  Nat.isDigit_of_mem_toDigits (by decide) (by decide) (Nat.toList_repr ▸ h)

namespace Classification

variable {id id' version version' : String} {count count' : Nat}

theorem splitLast?_key (id version : String) (count : Nat) :
    Text.splitLast? '-' (key id version count).toList
      = some ((id ++ "-" ++ version).toList, (toString count).toList) := by
  refine Text.splitLast?_eq_some_iff.2 ⟨by simp [key, toString], fun h => ?_⟩
  exact absurd (isDigit_of_mem_toString h) (by decide)

/-- Whether a second id is a first one with a hyphen and the beginning of its version behind, and
the second version is what is left of the first. -/
def Extends (id version id' version' : String) : Prop :=
  ∃ middle, id' = id ++ "-" ++ middle ∧ version = middle ++ "-" ++ version'

/-- Whether two different ids with their versions give one text. -/
def Overlap (id version id' version' : String) : Prop :=
  Extends id version id' version' ∨ Extends id' version' id version

theorem not_isPlainVersion_of_extends (h : Extends id version id' version') :
    ¬ IsPlainVersion version := by
  obtain ⟨middle, -, rfl⟩ := h
  simp [IsPlainVersion]

/-- Of two ids that begin one text the longer one goes on behind the hyphen of the shorter one. -/
theorem eq_or_extends_of_append_eq {before : List Char}
    (hid : id'.toList = id.toList ++ before)
    (hversion : '-' :: version.toList = before ++ '-' :: version'.toList) :
    (id = id' ∧ version = version') ∨ Extends id version id' version' := by
  cases before with
  | nil =>
    rw [List.append_nil] at hid
    exact .inl ⟨String.toList_inj.1 hid.symm, String.toList_inj.1 (List.cons.inj hversion).2⟩
  | cons c middle =>
    obtain ⟨rfl, hrest⟩ := List.cons.inj hversion
    refine .inr ⟨String.ofList middle, String.toList_inj.1 ?_, String.toList_inj.1 ?_⟩
    · simp [hid]
    · simp [hrest]

theorem append_eq_append_iff :
    id ++ "-" ++ version = id' ++ "-" ++ version' ↔
      (id = id' ∧ version = version') ∨ Overlap id version id' version' := by
  constructor
  · intro h
    have hlists : id.toList ++ '-' :: version.toList = id'.toList ++ '-' :: version'.toList := by
      simpa using congrArg String.toList h
    rcases List.append_eq_append_iff.1 hlists with ⟨before, hid, hversion⟩ | ⟨before, hid, hversion⟩
    · exact (eq_or_extends_of_append_eq hid hversion).imp_right .inl
    · rcases eq_or_extends_of_append_eq hid hversion with ⟨hid, hversion⟩ | hextends
      · exact .inl ⟨hid.symm, hversion.symm⟩
      · exact .inr (.inr hextends)
  · rintro (⟨rfl, rfl⟩ | ⟨middle, rfl, rfl⟩ | ⟨middle, rfl, rfl⟩)
    · rfl
    · simp only [String.append_assoc]
    · simp only [String.append_assoc]

/-- A key tells the number, and what stands before it. -/
theorem key_eq_key_iff :
    key id version count = key id' version' count' ↔
      count = count' ∧ ((id = id' ∧ version = version') ∨ Overlap id version id' version') := by
  rw [← append_eq_append_iff]
  constructor
  · intro h
    have hkeys := congrArg (fun k => Text.splitLast? '-' k.toList) h
    simp only [splitLast?_key, Option.some.injEq, Prod.mk.injEq, String.toList_inj] at hkeys
    exact ⟨Nat.repr_inj.1 hkeys.2, hkeys.1⟩
  · rintro ⟨rfl, h⟩
    simp only [key, toString]
    rw [h]

/-- Where no version has a hyphen in it, a key tells the id, although ids may have hyphens. -/
theorem id_eq_of_key_eq (hversion : IsPlainVersion version) (hversion' : IsPlainVersion version')
    (h : key id version count = key id' version' count') : id = id' := by
  obtain ⟨-, ⟨hid, -⟩ | hextends | hextends⟩ := key_eq_key_iff.1 h
  · exact hid
  · exact absurd hversion (not_isPlainVersion_of_extends hextends)
  · exact absurd hversion' (not_isPlainVersion_of_extends hextends)

/-- What stands behind the last hyphen tells the keys of plugins from those of mere names. -/
theorem key_ne_unreleasedKey (id version : String) (count : Nat) (name : String) :
    key id version count ≠ Context.unreleasedKey name := by
  intro h
  have hname : Text.splitLast? '-' (Context.unreleasedKey name).toList
      = some (name.toList, unreleasedLabel.toList) :=
    Text.splitLast?_eq_some_iff.2 ⟨by simp [Context.unreleasedKey, toString], by decide⟩
  rw [← h, splitLast?_key] at hname
  have hcount : (toString count).toList = unreleasedLabel.toList :=
    (Prod.mk.inj (Option.some.inj hname)).2
  have hmem : 'u' ∈ (toString count).toList := hcount ▸ List.mem_cons_self
  exact absurd (isDigit_of_mem_toString hmem) (by decide)

theorem startsWith_key (id version : String) (count : Nat) :
    Text.startsWith (key id version count) (id ++ "-") = true := by
  have hkey : key id version count = id ++ "-" ++ (version ++ "-" ++ toString count) := by
    simp [key, toString, String.append_assoc]
  rw [hkey]
  exact Text.startsWith_append _ _

end Classification

namespace Run

/-- Whether an item's version, if it has one, has no hyphen in it. -/
def Item.HasPlainVersion : Item → Prop
  | .released _ collected => IsPlainVersion collected.version
  | .directory _ => True
  | .repository _ => True

/-- No other item has the key of a plugin. -/
theorem Item.key_ne_key_released {plugin : Plugin} {collected : Collected} {item : Item}
    (hcollected : IsPlainVersion collected.version) (hitem : item.HasPlainVersion)
    (hother : ∀ other c, item = .released other c → other.id ≠ plugin.id) :
    item.key ≠ (released plugin collected).key := by
  cases item with
  | released other c =>
    exact fun h => hother other c rfl (Classification.id_eq_of_key_eq hitem hcollected h)
  | directory name => exact (Classification.key_ne_unreleasedKey _ _ _ name).symm
  | repository name => exact (Classification.key_ne_unreleasedKey _ _ _ name).symm

end Run
end ReleaseGap
