import WasmCoverage.Proofs.Disk.Entries
import WasmCoverage.Proofs.Paired

/-!
# Disks that are the same below a place

Two disks may differ in many places and yet have the same below one of them, because there was
nothing and then the same was done there.  They are on a `Level` there.  An operation on an entry
below that place answers alike on both disks, and leaves them on a level (`Level.acts`).
-/

namespace WasmCoverage.Disk

variable {disk other : Disk} {name : String} {directory : Location}

/-- In a directory that stands on both disks, the place and everything below it are the same. -/
structure Level (name : String) (directory : Location) (disk other : Disk) : Prop where
  left : disk.Stands directory
  right : other.Stands directory
  same : ∀ location, name :: directory <:+ location →
    other.node? location = disk.node? location

/-- A place that is vacant on both disks is the same. -/
lemma level_of_vacant (htree : disk.IsTree) (htree' : other.IsTree)
    (hstands : disk.node? directory = some .directory)
    (hstands' : other.node? directory = some .directory)
    (hnone : disk.node? (name :: directory) = none)
    (hnone' : other.node? (name :: directory) = none) : Level name directory disk other :=
  ⟨htree.stands hstands, htree'.stands hstands', fun location hbelow => by
    rw [htree.none_below hnone hbelow, htree'.none_below hnone' hbelow]⟩

/-- A change below the place is no change elsewhere. -/
lemma Change.node?_on (change : Change) {location place : Location}
    (hnot : ¬ location <:+ place) (disk : Disk) :
    (change.on location disk).node? place = disk.node? place := by
  cases change with
  | keep => rfl
  | put node => exact node?_put_of_ne _ _ fun heq => hnot (heq ▸ List.suffix_rfl)
  | drop => exact node?_drop_of_not_suffix _ hnot

/-- Where the disks are the same before a change they are so afterwards. -/
lemma Change.same (change : Change) {location place : Location} (hne : location ≠ [])
    (h : other.node? place = disk.node? place) :
    (change.on location other).node? place = (change.on location disk).node? place := by
  by_cases hbelow : location <:+ place
  · cases change with
    | keep => exact h
    | put node =>
      show (other.put location node).node? place = (disk.put location node).node? place
      rw [node?_put hne, node?_put hne, h]
    | drop =>
      show (other.drop location).node? place = (disk.drop location).node? place
      rw [node?_drop_of_suffix _ hne hbelow, node?_drop_of_suffix _ hne hbelow]
  · rw [change.node?_on hbelow, change.node?_on hbelow, h]

/-- **What is done to an entry there is done alike.** -/
theorem Level.acts {α : Type} {entry : String} {around : Location} {effect : Effect α}
    {action : Action α} (h : Level name directory disk other)
    (hacts : ActsOn entry around effect action) (hbelow : name :: directory <:+ entry :: around)
    (hentry : disk.Entry entry around) (hentry' : other.Entry entry around) :
    Paired (Level name directory) action action disk other := by
  have hend := hacts disk hentry
  have hend' := hacts other hentry'
  rw [h.same _ hbelow] at hend'
  have hkept (change : Change) (disk : Disk) {place : Location} (hplace : place <:+ directory) :
      (change.on (entry :: around) disk).node? place = disk.node? place := by
    refine change.node?_on (fun hsuffix => ?_) disk
    exact absurd ((hbelow.trans hsuffix).trans hplace).length_le (by simp)
  intro r disk' hfirst
  obtain ⟨rfl, rfl⟩ := hfirst.unique hend
  refine ⟨_, hend', fun place hplace => ?_, fun place hplace => ?_, fun location hlocation =>
    Change.same _ (List.cons_ne_nil _ _) (h.same location hlocation)⟩
  · rw [hkept _ _ hplace, h.left place hplace]
  · rw [hkept _ _ hplace, h.right place hplace]

/-- A page that is to be written in a directory there is an entry on both disks. -/
lemma Level.page (h : Level name directory disk other)
    (hdir : disk.node? (name :: directory) = some .directory) {page : String}
    (hnames : ∀ n ∈ page :: name :: directory, Path.IsName n)
    (hclean : hasNul (pathOf (page :: name :: directory)) = false)
    (hnone : disk.node? (page :: name :: directory) = none) :
    disk.Entry page (name :: directory) ∧ other.Entry page (name :: directory) := by
  have hentry {disk : Disk} (hstands : disk.Stands directory)
      (hdir : disk.node? (name :: directory) = some .directory)
      (hnone : disk.node? (page :: name :: directory) = none) :
      disk.Entry page (name :: directory) := by
    refine ⟨fun place hplace => ?_, hnames, hclean, fun target htarget => ?_⟩
    · rcases List.suffix_cons_iff.1 hplace with rfl | hplace
      · exact hdir
      · exact hstands place hplace
    · cases hnone.symm.trans htarget
  exact ⟨hentry h.left hdir hnone, hentry h.right ((h.same _ List.suffix_rfl).trans hdir)
    ((h.same _ (List.suffix_cons _ _)).trans hnone)⟩

end WasmCoverage.Disk
