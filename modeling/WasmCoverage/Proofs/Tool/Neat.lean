import WasmCoverage.Proofs.Disk.Contents
import WasmCoverage.Proofs.Tool.Renderer

/-!
# Tools that write neatly

Whatever a tool writes, the pipeline relies on it to leave a disk that lists every place once, and
to put no links beside what is there: it is `Toolbox.Neat`.  So are the tools that do nothing but
make directories and write files, as `Tool.suite` does.
-/

namespace WasmCoverage

open WasmCoverage.Disk

/-- Tools leave a disk that lists every place once, and make links in no directory but those that
they make themselves. -/
structure Toolbox.Neat (tools : Toolbox) : Prop where
  distinct : ∀ calls request disk, disk.Distinct → (tools calls request disk).disk.Distinct
  links : ∀ calls request disk name directory target,
    (tools calls request disk).disk.node? (name :: directory) = some (.link target) →
      disk.node? (name :: directory) = some (.link target) ∨ disk.node? directory = none

/-! ## Making directories and writing files -/

/-- A disk that listed every place once still does. -/
def Listed (before after : Disk) : Prop :=
  before.Distinct → after.Distinct

instance : Std.Refl Listed :=
  ⟨fun _ => id⟩

instance : IsTrans Disk Listed :=
  ⟨fun _ _ _ h h' => h' ∘ h⟩

/-- And no links are new. -/
structure Neatly (before after : Disk) : Prop where
  listed : Listed before after
  links : ∀ location target, after.node? location = some (.link target) →
    before.node? location = some (.link target)

instance : Std.Refl Neatly :=
  ⟨fun _ => ⟨id, fun _ _ h => h⟩⟩

instance : IsTrans Disk Neatly :=
  ⟨fun _ _ _ h h' => ⟨h'.listed ∘ h.listed,
    fun location target hlink => h.links location target (h'.links location target hlink)⟩⟩

lemma neatly_put {disk : Disk} {location : Location} {node : Node} (hnil : location ≠ [])
    (hnode : ∀ target, node ≠ .link target) : Neatly disk (disk.put location node) := by
  refine ⟨fun h => h.put _ _, fun place target hlink => ?_⟩
  rw [node?_put hnil] at hlink
  split at hlink
  · exact absurd (Option.some.inj hlink) (hnode target)
  · exact hlink

lemma neatly_write (path : Path) (data : Text.Octets) : Respects Neatly (write path data) := by
  intro disk r disk' h
  rcases write_spec h with ⟨-, rfl⟩ | ⟨-, -, location, executable, -, hplain, rfl⟩
  · exact refl_of Neatly disk'
  · exact neatly_put (Plain.ne_nil hplain) (by simp)

lemma neatly_makeDirectory (path : Path) : Respects Neatly (makeDirectory path) := by
  intro disk r disk' h
  rcases makeDirectory_spec h with ⟨-, rfl⟩ | ⟨-, -, location, -, hnone, rfl⟩
  · exact refl_of Neatly disk'
  · exact neatly_put (ne_nil_of_node?_eq_none hnone) (by simp)

lemma Toolbox.neat_of_neatly {tools : Toolbox}
    (h : ∀ calls request disk, Neatly disk (tools calls request disk).disk) : tools.Neat :=
  ⟨fun calls request disk => (h calls request disk).listed,
    fun calls request disk _ _ target hlink => Or.inl ((h calls request disk).links _ target hlink)⟩

namespace Tool

lemma neatly_answer {action : Disk.Action Unit} (h : Respects Neatly action) (disk : Disk) :
    Neatly disk (answer action disk).disk := by
  obtain ⟨r, hend, -⟩ := disk_answer action disk
  exact h _ _ _ hend

lemma neatly_joiner (calls : List Call) (request : Call) (disk : Disk) :
    Neatly disk (joiner calls request disk).disk := by
  unfold joiner
  split
  · dsimp only
    split
    · exact refl_of Neatly disk
    · exact neatly_answer (neatly_write _ _) disk
  · exact refl_of Neatly disk

lemma neat_copier : copier.Neat := by
  refine Toolbox.neat_of_neatly fun calls request disk => ?_
  unfold copier
  split
  · refine neatly_answer ((respects_read.mono fun h => h ▸ refl_of Neatly _).bind fun _ => ?_) disk
    exact neatly_write _ _
  · exact refl_of Neatly disk

lemma neat_suite : suite.Neat := by
  refine Toolbox.neat_of_neatly fun calls request disk => ?_
  unfold suite
  split
  · exact neatly_answer ((neatly_makeDirectory _).bind fun _ => neatly_write _ _) disk
  · exact neatly_joiner calls request disk

end Tool

end WasmCoverage
