import WasmCoverage.Pipeline
import WasmCoverage.Proofs.Workspace

/-!
# Runs that call no tool

Most of what a step does is about the disk alone (`OnlyDisk`): it does the same in every world with
the same disk, and calls no tool.  The rest, but for the calls, is messages, and a message changes
nothing but the journal (`ends_note`).  What a step does to the disk is therefore independent of
what it said and of which tools were called (`OnlyDisk.bind`, `ends_note_bind`).
-/

namespace WasmCoverage.Pipeline

open WasmCoverage.Disk

variable {w w' : World}

/-! ## Runs on the disk alone -/

/-- No tool is called. -/
def Quiet (before after : World) : Prop :=
  after.calls = before.calls

instance : IsTrans World Quiet :=
  ⟨fun _ _ _ h h' => h'.trans h⟩

/-- The run reads and changes nothing but the disk, so it does the same in every world with the
same disk. -/
def OnlyDisk {α : Type} (run : Run α) : Prop :=
  ∀ w r w', Ends run w r w' → ∀ u : World, u.disk = w.disk → Ends run u r { u with disk := w'.disk }

section OnlyDisk

variable {α β : Type} {x : Run α} {f : α → Run β}

lemma OnlyDisk.quiet (h : OnlyDisk x) : Respects Quiet x := by
  intro w r w' hx
  obtain ⟨-, hworld⟩ := hx.unique (h w r w' hx w rfl)
  rw [hworld]
  rfl

lemma OnlyDisk.pure (a : α) : OnlyDisk (Pure.pure a : Run α) := by
  intro w r w' h u hu
  obtain ⟨rfl, rfl⟩ := ends_pure.1 h
  rw [← hu]
  exact ends_pure.2 ⟨rfl, rfl⟩

lemma OnlyDisk.throw (fault : Fault) : OnlyDisk (MonadExcept.throw fault : Run α) := by
  intro w r w' h u hu
  obtain ⟨rfl, rfl⟩ := ends_throw.1 h
  rw [← hu]
  exact ends_throw.2 ⟨rfl, rfl⟩

/-- **A bind acts on the disk alone if its steps do.** -/
theorem OnlyDisk.bind (hx : OnlyDisk x) (hf : ∀ a, OnlyDisk (f a)) : OnlyDisk (x >>= f) := by
  intro w r w' h u hu
  rcases ends_bind.1 h with ⟨a, t, ha, hb⟩ | ⟨fault, hfault, rfl⟩
  · exact (hx w _ t ha u hu).bind (hf a t r w' hb { u with disk := t.disk } rfl)
  · exact (hx w _ w' hfault u hu).bind_error

lemma OnlyDisk.onDiskOr (reword : Disk.Error → Fault) (action : Disk.Action α) :
    OnlyDisk (onDiskOr reword action) := by
  intro w r w' h u hu
  obtain ⟨result, disk, haction, rfl, rfl⟩ := ends_onDiskOr.1 h
  exact ends_onDiskOr.2 ⟨result, disk, hu ▸ haction, rfl, rfl⟩

lemma OnlyDisk.onDisk (action : Disk.Action α) : OnlyDisk (onDisk action) := by
  rw [onDisk_eq]
  exact OnlyDisk.onDiskOr _ _

lemma OnlyDisk.store {workspace : Workspace} (store : Store) :
    OnlyDisk (workspace.store store) := by
  have hroot : OnlyDisk workspace.root := by
    unfold Workspace.root
    split
    · exact OnlyDisk.pure _
    · exact OnlyDisk.throw _
  exact hroot.bind fun root => (OnlyDisk.onDiskOr _ _).bind fun _ => OnlyDisk.pure _

lemma OnlyDisk.directoryName (name : String) : OnlyDisk (Workspace.directoryName name) := by
  unfold Workspace.directoryName
  split
  · exact OnlyDisk.pure _
  · exact OnlyDisk.throw _

lemma onlyDisk_reportDirectory {workspace : Workspace} (name : String) :
    OnlyDisk (workspace.reportDirectory name) :=
  (OnlyDisk.store _).bind fun _ => (OnlyDisk.directoryName _).bind fun _ => OnlyDisk.pure _

lemma onlyDisk_mergedProfile {workspace : Workspace} (name : String) :
    OnlyDisk (workspace.mergedProfile name) :=
  (OnlyDisk.store _).bind fun _ => (OnlyDisk.directoryName _).bind fun _ => OnlyDisk.pure _

end OnlyDisk

/-! ## Journals -/

/-- The world after a message of the pipeline. -/
def noted (level : LogLevel) (message : String) (w : World) : World :=
  { w with journal := w.journal ++ [⟨level, .pipeline, message⟩] }

@[simp]
lemma disk_noted (level : LogLevel) (message : String) (w : World) :
    (noted level message w).disk = w.disk := rfl

@[simp]
lemma calls_noted (level : LogLevel) (message : String) (w : World) :
    (noted level message w).calls = w.calls := rfl

/-- A message changes nothing but the journal. -/
lemma ends_note {level : LogLevel} {message : String} {r : Except Fault Unit} :
    Ends (note level message) w r w' ↔ r = .ok () ∧ w' = noted level message w :=
  ends_modify

lemma ends_note_bind {α : Type} {level : LogLevel} {message : String} {x : Run α}
    {r : Except Fault α} :
    Ends (note level message >>= fun _ => x) w r w' ↔ Ends x (noted level message w) r w' := by
  constructor
  · intro h
    rcases ends_bind.1 h with ⟨⟨⟩, t, hnote, hrest⟩ | ⟨fault, hnote, -⟩
    · obtain ⟨-, rfl⟩ := ends_note.1 hnote
      exact hrest
    · cases (ends_note.1 hnote).1
  · intro h
    exact Ends.bind (ends_note.2 ⟨rfl, rfl⟩) h

lemma quiet_note (level : LogLevel) (message : String) : Respects Quiet (note level message) := by
  intro w r w' h
  obtain ⟨-, rfl⟩ := ends_note.1 h
  rfl

end WasmCoverage.Pipeline
