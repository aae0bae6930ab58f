import WasmCoverage.Proofs.Discovery.Order
import WasmCoverage.Proofs.Pipeline.Calls
import WasmCoverage.Proofs.Pipeline.Record
import WasmCoverage.Proofs.Tool.Neat

/-!
# The order of listings

A directory lists its entries in no particular order, and the phases list many: the build tree, the
store of raw samples, every group of samples, the staging area and the object store.  Each of these
listings is sorted before anything is chosen from it, so in two worlds that differ in the order of
listings only, every phase does the same and leaves worlds that differ in nothing else.

Two things are done in the order of a listing, and show it when they fail.  Files are told from
directories before they are sorted, so of several paths that are too long the first one listed is
named.  And an old report is removed entry by entry: if the system does not let go of one, the
message names what was first, and what is left of the report depends on the order
(`order_shows_of_held`).

A tool might list directories as well.  What is assumed of the tools is that they do not tell such
worlds apart (`Toolbox.Orderless`), as tools do not that go by the files they are told
(`orderless_suite`).  And the workspace has a path from the root, as one that was opened has.
-/

namespace WasmCoverage

open WasmCoverage.Text

/-! ## Worlds, and tools in them -/

namespace World.Reordered

variable {w v : World}

lemma calls_eq (h : w.Reordered v) : v.calls = w.calls := by
  rw [h.rest]

lemma clock_eq (h : w.Reordered v) : v.clock = w.clock := by
  rw [h.rest]

end World.Reordered

/-- The responses differ in the order of the entries of the disks they leave only. -/
structure Response.Reordered (response other : Response) : Prop where
  outcome : other.outcome = response.outcome
  printed : other.printed = response.printed
  log : other.log = response.log
  disk : Disk.Reordered response.disk other.disk

/-- Tools do not tell disks apart that differ in the order of their entries. -/
def Toolbox.Orderless (tools : Toolbox) : Prop :=
  ∀ calls request disk other, Disk.Reordered disk other →
    (tools calls request disk).Reordered (tools calls request other)

section Tools

variable {tools : Toolbox} (htools : tools.Orderless)

include htools

/-- **A call conceals the order of listings**, and it is recorded in both worlds. -/
theorem conceals_call (request : Call) : Conceals World.Reordered (call tools request) := by
  intro w v h r w' hend
  obtain ⟨rfl, rfl⟩ := ends_call.1 hend
  have hresponse : (w.response tools request).Reordered (v.response tools request) := by
    rw [World.response, World.response, h.calls_eq]
    exact htools _ _ _ _ h.disk
  refine ⟨v.answered tools request, ends_call.2 ⟨hresponse.outcome.symm, rfl⟩, hresponse.disk, ?_⟩
  rw [World.answered, World.answered]
  dsimp only
  rw [hresponse.log, hresponse.printed, h.rest]

lemma conceals_compile (compiler : String) (ir object : Path) (triple : String) :
    Conceals World.Reordered (Tool.compile tools compiler ir object triple) :=
  Disk.conceals_makeDirectories.onDisk.bind fun _ => (conceals_call htools _).bind fun _ => .pure _

lemma conceals_mergeProfiles (tool : String) (samples : List Path) (profile : Path)
    (extra : List String) :
    Conceals World.Reordered (Tool.mergeProfiles tools tool samples profile extra) := by
  unfold Tool.mergeProfiles
  split
  · exact fun _ _ h => .throw_bind _ h
  · exact Disk.conceals_makeDirectories.onDisk.bind fun _ =>
      (conceals_call htools _).bind fun _ => .pure _

lemma conceals_renderReport (tool : String) (profile object output : Path)
    (extra : List String) :
    Conceals World.Reordered (Tool.renderReport tools tool profile object output extra) :=
  (conceals_call htools _).bind fun _ => .pure _

end Tools

lemma conceals_neutralizeFile (source target : Path) :
    Conceals World.Reordered (Ir.neutralizeFile source target) := by
  refine Disk.conceals_read.onDiskOr.bind fun octets => ?_
  split
  · exact .throw _
  · refine Conceals.bind (Conceals.onDiskOr ?_) fun _ => .pure _
    exact Disk.conceals_makeDirectories.bind fun _ => Disk.conceals_write _

/-! ## The workspace -/

namespace Workspace

variable {workspace : Workspace}

/-- The root of the workspace, if it has one, is a path from the root of the disk. -/
def Absolute (workspace : Workspace) : Prop :=
  ∀ root, workspace.bound? = some root → root.isAbsolute = true

lemma conceals_store (store : Store) : Conceals World.Reordered (workspace.store store) := by
  have hroot : Conceals World.Reordered workspace.root := by
    unfold root
    split
    · exact .pure _
    · exact .throw _
  exact hroot.bind fun _ => Disk.conceals_makeDirectories.onDiskOr.bind fun _ => .pure _

lemma conceals_directoryName (name : String) :
    Conceals World.Reordered (directoryName name) := by
  unfold directoryName
  split
  · exact .pure _
  · exact .throw _

lemma conceals_mergedProfile (name : String) :
    Conceals World.Reordered (workspace.mergedProfile name) :=
  (conceals_store _).bind fun _ => (conceals_directoryName name).bind fun _ => .pure _

lemma conceals_reportDirectory (name : String) :
    Conceals World.Reordered (workspace.reportDirectory name) :=
  (conceals_store _).bind fun _ => (conceals_directoryName name).bind fun _ => .pure _

/-- A store lies where the root of the workspace does. -/
lemma Absolute.isAbsolute_of_store (hroot : workspace.Absolute) {store : Store} {path : Path}
    {w w' : World} (h : Ends (workspace.store store) w (.ok path) w') : path.isAbsolute = true := by
  obtain ⟨base, disk, hbound, rfl, -⟩ := store_spec h
  exact Path.isAbsolute_child (hroot base hbound) _

lemma answersAlike_groupsAmong : ∀ {entries : List Path} {disk other : Disk},
    (∀ entry ∈ entries, entry.isAbsolute = true) → Disk.Reordered disk other →
    AnswersAlike Disk.Reordered (groupsAmong entries) (groupsAmong entries) disk other
  | [], _, _, _, h => (Paired.pure _ h).answersAlike
  | entry :: rest, _, _, hentries, h => by
      rw [List.forall_mem_cons] at hentries
      refine (Disk.conceals_leadsTo _ _ _ h).answersAlike.bind fun there _ _ h => ?_
      split
      · exact (Disk.answersAlike_filesWithSuffix hentries.1 _ h).bind fun _ _ _ h =>
          (answersAlike_groupsAmong hentries.2 h).bind fun _ _ _ h => (Paired.pure _ h).answersAlike
      · exact answersAlike_groupsAmong hentries.2 h

lemma overlong_groupsAmong : ∀ entries : List Path,
    FailsOnly Disk.Error.Overlong (groupsAmong entries)
  | [] => .pure _
  | entry :: rest => by
      intro disk error disk' h
      rcases ends_bind.1 h with ⟨there, d, hthere, hrest⟩ | ⟨e, hkind, heq⟩
      · cases there with
        | false => exact overlong_groupsAmong rest _ _ _ hrest
        | true =>
          rcases ends_bind.1 hrest with ⟨samples, d', -, hothers⟩ | ⟨e, hfiles, heq⟩
          · exact ((overlong_groupsAmong rest).bind fun _ => .pure _) _ _ _ hothers
          · obtain rfl := Except.error.inj heq
            exact Disk.overlong_filesWithSuffix hthere hfiles
      · obtain rfl := Except.error.inj heq
        exact Disk.overlong_leadsTo _ _ _ _ hkind

/-- **The groups of samples do not depend on the order of listings**, if they are found. -/
theorem alike_groups (hroot : workspace.Absolute) {w v : World} (h : w.Reordered v) :
    Alike Fault.BothOverlong World.Reordered workspace.groups workspace.groups w v := by
  refine (conceals_store _ _ _ h).alike.bind_of_both fun samples w v hstore _ h => ?_
  have hsamples := hroot.isAbsolute_of_store hstore
  have hdisk : Alike (fun e e' => e.Overlong ∧ e'.Overlong) Disk.Reordered
      (do groupsAmong (← Disk.entriesOf samples)) (do groupsAmong (← Disk.entriesOf samples))
      w.disk v.disk := by
    refine (Disk.conceals_entriesOf hsamples _ _ h.disk).alike.bind_of_both
      fun entries disk other hentries _ h => ?_
    have habsolute : ∀ entry ∈ entries, entry.isAbsolute = true := by
      intro entry hentry
      obtain ⟨name, rfl⟩ := Disk.mem_entriesOf hentries hentry
      exact Path.isAbsolute_child hsamples name
    exact alike_of_answersAlike (answersAlike_groupsAmong habsolute h)
      (answersAlike_groupsAmong habsolute h.symm) (respects_groupsAmong entries)
      (respects_groupsAmong entries) (overlong_groupsAmong entries) (overlong_groupsAmong entries) h
  rw [onDisk_eq]
  exact hdisk.onDiskOr h fun e e' hoverlong =>
    ⟨e, e', hoverlong.1, hoverlong.2, Or.inl ⟨passedOn_disk e, passedOn_disk e'⟩⟩

end Workspace

/-! ## The phases -/

namespace Pipeline

variable {pipeline : Pipeline} {tools : Toolbox} {extra : List String} {w v : World}

lemma conceals_note (level : LogLevel) (message : String) :
    Conceals World.Reordered (note level message) :=
  conceals_journal _ _ _

lemma conceals_placeIn (directory : Path) : Conceals World.Reordered (placeIn directory) := by
  refine Conceals.bind (fun w v h => .get_bind ?_) fun _ => .pure _
  rw [h.disk.here]
  exact .pure _ h

lemma conceals_objectIn {name : String} {directory : Path}
    (hdirectory : directory.isAbsolute = true) :
    Conceals Disk.Reordered (objectIn name directory) := by
  refine (Disk.conceals_leadsTo _).bind fun there => ?_
  split
  · exact .pure _
  · exact (Disk.conceals_entriesOf hdirectory).bind fun _ => Disk.conceals_firstFile _ _

/-- **The object for a name does not depend on the order of listings.** -/
theorem conceals_findObject (hroot : pipeline.workspace.Absolute) (name : String) :
    Conceals World.Reordered (pipeline.findObject name) := by
  refine (Workspace.conceals_store _).bind_of_ends fun staging w w' hstaging =>
    (Workspace.conceals_store _).bind_of_ends fun objects t t' hobjects => ?_
  refine (conceals_objectIn (hroot.isAbsolute_of_store hstaging)).onDisk.bind fun found => ?_
  split
  · exact .pure _
  · exact (conceals_objectIn (hroot.isAbsolute_of_store hobjects)).onDisk

lemma conceals_judge (staging : Path) (summary : FinalizeSummary) :
    Conceals World.Reordered (judge staging summary) := by
  refine (conceals_placeIn _).bind fun place w v h => .get_bind ?_
  rw [h.clock_eq]
  refine ((Disk.conceals_write _).onDisk _ _ h).bind fun _ w v h => ?_
  split
  · exact .throw_bind _ h
  · exact (conceals_note _ _ _ _ h).bind fun _ w v h => .pure _ h

lemma conceals_conclude (summary : ReportSummary) :
    Conceals World.Reordered (pipeline.conclude summary) := by
  have hwrite : Conceals World.Reordered (pipeline.writeReport summary) := by
    refine (Workspace.conceals_store _).bind fun reports => Conceals.bind ?_ fun _ =>
      (conceals_placeIn _).bind fun place w v h => .get_bind ?_
    · exact (Disk.conceals_makeDirectories.bind fun _ => Disk.conceals_write _).onDisk
    · rw [h.clock_eq]
      exact (Disk.conceals_write _).onDisk _ _ h
  refine hwrite.bind fun _ => ?_
  generalize summary.merges.isEmpty = none
  generalize allFailed? _ _ summary.reports = verdict
  cases verdict with
  | some count => exact fun _ _ h => .throw_bind _ h
  | none =>
    cases none with
    | true =>
      exact (Workspace.conceals_store _).bind fun _ => (conceals_note _ _).bind fun _ => .pure _
    | false => exact .pure _

section Phases

variable (htools : tools.Orderless)

include htools

lemma conceals_finalizeModule (staging : Path) (m : Module) :
    Conceals World.Reordered (pipeline.finalizeModule tools staging m) := by
  refine (conceals_note _ _).bind fun _ => ?_
  split
  · have hstage (module ir stagedIr object copy : Path) : Conceals World.Reordered
        (pipeline.stage tools module ir stagedIr object copy) :=
      (conceals_neutralizeFile _ _).bind fun _ => (conceals_note _ _).bind fun _ =>
        (conceals_compile htools _ _ _ _).bind fun _ =>
          Disk.conceals_copyFile.onDisk.bind fun _ => .pure _
    rw [processModule_eq]
    refine ((hstage _ _ _ _ _).bind fun _ => .pure _).tryCatch fun fault => ?_
    split
    · exact (conceals_note _ _).bind fun _ =>
        (Disk.conceals_leadsTo _).onDisk.bind fun _ => .pure _
    · exact .throw _
  · exact (conceals_note _ _).bind fun _ => .pure _

lemma conceals_mergeGroup (group : Workspace.Group) :
    Conceals World.Reordered (pipeline.mergeGroup tools extra group) := by
  rw [mergeGroup_eq]
  refine Conceals.bind ?_ fun profile => Conceals.tryCatch ?_ fun fault => ?_
  · exact (Workspace.conceals_mergedProfile _).bind fun _ => (conceals_note _ _).bind fun _ =>
      Disk.conceals_removeIfThere.onDisk.bind fun _ => .pure _
  · exact (conceals_mergeProfiles htools _ _ _ _).bind fun _ =>
      (conceals_note _ _).bind fun _ => .pure _
  · split
    · exact (conceals_note _ _).bind fun _ =>
        Disk.conceals_removeIfThere.onDisk.bind fun _ => .pure _
    · exact .throw _

/-- The groups of a merge are found alike, or in neither world. -/
lemma alike_mergeAll (extra : List String) (hroot : pipeline.workspace.Absolute)
    (h : w.Reordered v) :
    Alike Fault.BothOverlong World.Reordered (pipeline.mergeAll tools extra)
      (pipeline.mergeAll tools extra) w v :=
  (Workspace.alike_groups hroot h).bind fun _ _ _ h =>
    (Conceals.mapM (fun group _ => conceals_mergeGroup htools group) _ _ h).alike

/-- **A finalization does the same** however directories are listed, or its search fails. -/
theorem alike_finalize (buildRoot : Option Path) (forbidden : Forbidden) (h : w.Reordered v) :
    Alike Fault.BothOverlong World.Reordered (pipeline.finalize tools buildRoot forbidden)
      (pipeline.finalize tools buildRoot forbidden) w v := by
  have hsearchRoot (staging : Path) : Conceals World.Reordered (searchRoot staging buildRoot) := by
    cases buildRoot with
    | some path => exact Disk.conceals_resolve.onDisk
    | none => exact .pure _
  rw [finalize_eq]
  refine Alike.bind ?_ fun done w v h => (conceals_judge _ _ _ _ h).alike
  refine (Workspace.conceals_store _ _ _ h).bind_alike fun staging w v h => ?_
  refine (hsearchRoot staging _ _ h).bind_alike fun root w v h => ?_
  refine (alike_discover root h).bind fun modules w v h => Paired.alike ?_
  refine (conceals_note _ _ _ _ h).bind fun _ w v h => ?_
  exact (Conceals.mapM (fun m _ => conceals_finalizeModule htools staging m) _ _ h).bind
    fun _ w v h => .pure _ h

lemma alike_merge (hroot : pipeline.workspace.Absolute) (h : w.Reordered v) :
    Alike Fault.BothOverlong World.Reordered (pipeline.merge tools extra)
      (pipeline.merge tools extra) w v := by
  refine (alike_mergeAll htools _ hroot h).bind fun outcomes w v h => Paired.alike ?_
  split
  · exact .throw_bind _ h
  · exact .pure _ h

end Phases

/-! ## Old reports that cannot be removed -/

/-- The fault says that the system does not let go of something. -/
def Busy (fault : Fault) : Prop :=
  ∃ shown, fault = .disk (.system (Disk.Cause.busy.about shown))

/-- Find the object of a binary, and the place of its report. -/
def reportPlace (pipeline : Pipeline) (name : String) : Run (Option Path × Path) := do
  let object ← pipeline.findObject name
  return (object, ← pipeline.workspace.reportDirectory name)

lemma onlyDisk_reportPlace (name : String) : OnlyDisk (pipeline.reportPlace name) :=
  (onlyDisk_findObject _).bind fun _ => (onlyDisk_reportDirectory _).bind fun _ => OnlyDisk.pure _

/-- There is an object for the binary, and the directory in the place of its report is stuck. -/
def ReportStuck (pipeline : Pipeline) (name : String) (object directory : Path)
    (location : Location) (w : World) : Prop :=
  ∃ u, Ends (pipeline.reportPlace name) w (.ok (some object, directory)) u ∧
    u.disk.Stuck directory location

/-- The binary fails in both worlds, as its old report is stuck.  No tool is called, and the worlds
that are left have the same but below that report.  The messages may name different things. -/
def Unremoved (pipeline : Pipeline) (tools : Toolbox) (extra : List String)
    (merged : MergeOutcome) (w v : World) : Prop :=
  ∃ object directory location fault fault' w' v',
    pipeline.ReportStuck merged.name.lossy object directory location w ∧
    pipeline.ReportStuck merged.name.lossy object directory location v ∧
    Busy fault ∧ Busy fault' ∧
    Ends (pipeline.reportOne tools extra merged) w
      (.ok (failedReport merged object directory fault)) w' ∧
    Ends (pipeline.reportOne tools extra merged) v
      (.ok (failedReport merged object directory fault')) v' ∧
    Quiet w w' ∧ Quiet v v' ∧ Disk.SameOutside location w'.disk v'.disk

section Removing

variable {merged : MergeOutcome} {object directory : Path} {location : Location} {u : World}

/-- A binary fails where its old report is stuck. -/
lemma ends_reportOne_stuck (hmerged : merged.status = .merged)
    (hplace : Ends (pipeline.reportPlace merged.name.lossy) w (.ok (some object, directory)) u)
    (hstuck : u.disk.Stuck directory location) : ∃ shown w',
      Disk.Interrupted directory location u.disk
        (.error (.system (Disk.Cause.busy.about shown))) w'.disk ∧
      Ends (pipeline.reportOne tools extra merged) w (.ok (failedReport merged object directory
        (.disk (.system (Disk.Cause.busy.about shown))))) w' ∧ Quiet w w' := by
  obtain ⟨shown, disk, hvacate, hstopped⟩ := ends_vacate_stuck hstuck
  -- a message does not change what is found
  have hplace' := onlyDisk_reportPlace _ _ _ _ hplace (noted .info
    ("Generating coverage report for " ++ merged.name.lossy) w) rfl
  have hvacate' := onlyDisk_vacate _ _ _ _ hvacate { noted .info
    ("Generating coverage report for " ++ merged.name.lossy) w with disk := u.disk } rfl
  obtain ⟨found, t, hfound, hrest⟩ := ends_bind_ok.1 hplace'
  obtain ⟨other, t', hdirectory, hlast⟩ := ends_bind_ok.1 hrest
  obtain ⟨heq, rfl⟩ := ends_pure.1 hlast
  obtain ⟨rfl, rfl⟩ := Prod.mk.inj (Except.ok.inj heq)
  refine ⟨shown, noted .warning ("Failed to generate coverage report for " ++ merged.name.lossy ++
      ": " ++ (Fault.disk (.system (Disk.Cause.busy.about shown))).message)
      { noted .info ("Generating coverage report for " ++ merged.name.lossy) w with disk },
    hstopped, ?_, rfl⟩
  unfold reportOne
  rw [hmerged]
  refine ends_note_bind.2 (hfound.bind ?_)
  dsimp only
  rw [reportObject_eq]
  exact hdirectory.bind (ends_attemptReport_error rfl (ends_render_error hvacate'))

/-- Where nothing is stuck a place is vacated alike. -/
lemma paired_vacate (h : w.Reordered v) (hfree : ∀ location, ¬ w.disk.Stuck directory location) :
    Paired World.Reordered (vacate directory) (vacate directory) w v := by
  refine ((Disk.conceals_leadsTo _).onDisk _ _ h).bind_of_ends fun there u t hthere h => ?_
  obtain ⟨disk, hread, rfl⟩ := ends_onDisk_ok.1 hthere
  obtain rfl := Disk.respects_leadsTo _ _ _ _ hread
  split
  · rw [onDisk_eq]
    exact Paired.onDiskOr (Disk.paired_removeTree h.disk hfree) h
  · exact .pure _ h

variable (htools : tools.Orderless) (hroot : pipeline.workspace.Absolute)

include hroot

lemma conceals_reportPlace (name : String) :
    Conceals World.Reordered (pipeline.reportPlace name) :=
  (conceals_findObject hroot name).bind fun _ => (Workspace.conceals_reportDirectory name).bind
    fun _ => .pure _

include htools

/-- Where its old report is not stuck a binary is reported alike. -/
lemma paired_reportOne_of_free (merged : MergeOutcome) (h : w.Reordered v)
    (hfree : merged.status = .merged → ∀ object directory location,
      ¬ pipeline.ReportStuck merged.name.lossy object directory location w) :
    Paired World.Reordered (pipeline.reportOne tools extra merged)
      (pipeline.reportOne tools extra merged) w v := by
  unfold reportOne
  split
  · next hmerged =>
    refine (conceals_note _ _ _ _ h).bind_of_ends fun _ w₀ v₀ hnote h => ?_
    obtain ⟨-, rfl⟩ := ends_note.1 hnote
    refine (conceals_findObject hroot _ _ _ h).bind_of_ends fun found w₁ v₁ hfound h => ?_
    split
    · next object =>
      rw [reportObject_eq]
      refine (Workspace.conceals_reportDirectory _ _ _ h).bind_of_ends
        fun directory w₂ v₂ hdirectory h => ?_
      have hplace : Ends (pipeline.reportPlace merged.name.lossy) _
          (.ok (some object, directory)) w₂ :=
        hfound.bind (hdirectory.bind (ends_pure.2 ⟨rfl, rfl⟩))
      have hvacate := paired_vacate h fun location hlocation => hfree hmerged object
        directory location ⟨_, onlyDisk_reportPlace _ _ _ _ hplace w rfl, hlocation⟩
      refine Paired.tryCatch (Paired.bind ?_ fun _ _ _ h => (conceals_note _ _ _ _ h).bind
        fun _ _ _ h => .pure _ h) fun fault _ _ h => ?_
      · rw [render_eq]
        exact hvacate.bind fun _ _ _ h => (conceals_renderReport htools _ _ _ _ _ _ _ h).bind
          fun _ _ _ h => .pure _ h
      · split
        · exact (conceals_note _ _ _ _ h).bind fun _ _ _ h => .pure _ h
        · exact .throw _ h
    · exact (Workspace.conceals_store _ _ _ h).bind fun _ _ _ h =>
        (Workspace.conceals_store _ _ _ h).bind fun _ _ _ h =>
          (conceals_note _ _ _ _ h).bind fun _ _ _ h => .pure _ h
  · exact .pure _ h

/-- **A binary is reported alike**, unless its old report is stuck. -/
theorem paired_reportOne (merged : MergeOutcome) (h : w.Reordered v) :
    Paired World.Reordered (pipeline.reportOne tools extra merged)
      (pipeline.reportOne tools extra merged) w v ∨
    pipeline.Unremoved tools extra merged w v := by
  by_cases hstuck : merged.status = .merged ∧ ∃ object directory location,
      pipeline.ReportStuck merged.name.lossy object directory location w
  · obtain ⟨hmerged, object, directory, location, u, hplace, hstuck⟩ := hstuck
    obtain ⟨u', hplace', hu⟩ := conceals_reportPlace hroot _ _ _ h _ _ hplace
    have hstuck' := hu.disk.stuck hstuck
    obtain ⟨shown, w', hstopped, hend, hquiet⟩ := ends_reportOne_stuck hmerged hplace hstuck
    obtain ⟨shown', v', hstopped', hend', hquiet'⟩ :=
      ends_reportOne_stuck hmerged hplace' hstuck'
    exact Or.inr ⟨object, directory, location, _, _, w', v', ⟨u, hplace, hstuck⟩,
      ⟨u', hplace', hstuck'⟩, ⟨shown, rfl⟩, ⟨shown', rfl⟩, hend, hend', hquiet, hquiet',
      hu.disk.sameOutside hstopped hstopped'⟩
  · exact Or.inl (paired_reportOne_of_free htools hroot merged h
      fun hmerged object directory location hplace =>
        hstuck ⟨hmerged, object, directory, location, hplace⟩)

/-- **All binaries are reported alike**, or those before the first whose old report is stuck. -/
theorem paired_reportAll : ∀ (merges : List MergeOutcome) {w v : World}, w.Reordered v →
    Paired World.Reordered (merges.mapM (pipeline.reportOne tools extra))
      (merges.mapM (pipeline.reportOne tools extra)) w v ∨
    ∃ before merged behind done w₁ v₁, merges = before ++ merged :: behind ∧
      Ends (before.mapM (pipeline.reportOne tools extra)) w (.ok done) w₁ ∧
      Ends (before.mapM (pipeline.reportOne tools extra)) v (.ok done) v₁ ∧ w₁.Reordered v₁ ∧
      pipeline.Unremoved tools extra merged w₁ v₁
  | [], _, _, h => Or.inl (.pure _ h)
  | merged :: rest, w, v, h => by
      rcases paired_reportOne htools hroot merged h with hpaired | hstuck
      · rw [List.mapM_cons]
        obtain ⟨r, w₁, hend⟩ := exists_ends (pipeline.reportOne tools extra merged) w
        obtain ⟨v₁, hend', h₁⟩ := hpaired _ _ hend
        cases r with
        | error fault =>
          refine Or.inl (hpaired.bind_of_ends fun _ _ _ hok _ => ?_)
          cases (hok.unique hend).1
        | ok outcome =>
          rcases paired_reportAll rest h₁ with hrest |
            ⟨before, stuck, behind, done, w₂, v₂, rfl, hbefore, hbefore', h₂, hstuck⟩
          · refine Or.inl (hpaired.bind_of_both fun _ _ _ hok hok' _ => ?_)
            obtain ⟨-, rfl⟩ := hok.unique hend
            obtain ⟨-, rfl⟩ := hok'.unique hend'
            exact hrest.bind fun _ _ _ h => .pure _ h
          · exact Or.inr ⟨merged :: before, stuck, behind, outcome :: done, w₂, v₂, rfl,
              ends_mapM_cons.2 ⟨_, _, _, hend, hbefore, rfl⟩,
              ends_mapM_cons.2 ⟨_, _, _, hend', hbefore', rfl⟩, h₂, hstuck⟩
      · exact Or.inr ⟨[], merged, rest, [], w, v, rfl, ends_pure.2 ⟨rfl, rfl⟩,
          ends_pure.2 ⟨rfl, rfl⟩, h, hstuck⟩

end Removing

/-- Both runs come to a binary whose old report is stuck, after the same merges and the same
reports. -/
def Blocked (pipeline : Pipeline) (tools : Toolbox) (extra : List String) (w v : World) : Prop :=
  ∃ before merged behind done w₀ v₀ w₁ v₁,
    Ends (pipeline.mergeAll tools []) w (.ok (before ++ merged :: behind)) w₀ ∧
    Ends (pipeline.mergeAll tools []) v (.ok (before ++ merged :: behind)) v₀ ∧ w₀.Reordered v₀ ∧
    Ends (before.mapM (pipeline.reportOne tools extra)) w₀ (.ok done) w₁ ∧
    Ends (before.mapM (pipeline.reportOne tools extra)) v₀ (.ok done) v₁ ∧ w₁.Reordered v₁ ∧
    pipeline.Unremoved tools extra merged w₁ v₁

/-- **A report run does the same** however directories are listed, unless an old report is stuck. -/
theorem alike_report (htools : tools.Orderless) (hroot : pipeline.workspace.Absolute)
    (h : w.Reordered v) :
    Alike Fault.BothOverlong World.Reordered (pipeline.report tools extra)
      (pipeline.report tools extra) w v ∨
    pipeline.Blocked tools (pipeline.settings.reportArguments ++ extra) w v := by
  have hmerges := alike_mergeAll htools [] hroot h
  obtain ⟨r, w₀, hend⟩ := exists_ends (pipeline.mergeAll tools []) w
  cases r with
  | error fault =>
    refine Or.inl (hmerges.bind_of_both fun _ _ _ hok _ _ => ?_)
    cases (hok.unique hend).1
  | ok merges =>
    obtain ⟨_, v₀, hend', rfl | ⟨_, _, hne, -⟩, h₀⟩ := hmerges _ _ hend
    · rcases paired_reportAll htools hroot merges h₀ with hreports |
        ⟨before, merged, behind, done, w₁, v₁, rfl, hstuck⟩
      · refine Or.inl (hmerges.bind_of_both fun _ _ _ hok hok' _ => ?_)
        obtain ⟨heq, rfl⟩ := hok.unique hend
        obtain ⟨-, rfl⟩ := hok'.unique hend'
        obtain rfl := Except.ok.inj heq
        exact (hreports.bind fun reports _ _ h => conceals_conclude _ _ _ h).alike
      · exact Or.inr ⟨before, merged, behind, done, w₀, v₀, w₁, v₁, hend, hend', h₀, hstuck⟩
    · cases hne

/-! ## The main result -/

/-- In the two worlds every search answers alike, and every phase ends alike after the same calls:
the worlds that are left differ in the order of listings only.  A report run may be `Blocked`. -/
structure Unordered (pipeline : Pipeline) (tools : Toolbox) (w v : World) : Prop where
  discover : ∀ root marker forbidden, Alike Fault.BothOverlong World.Reordered
    (discover root marker forbidden) (discover root marker forbidden) w v
  groups : Alike Fault.BothOverlong World.Reordered pipeline.workspace.groups
    pipeline.workspace.groups w v
  findObject : ∀ name,
    Paired World.Reordered (pipeline.findObject name) (pipeline.findObject name) w v
  finalize : ∀ buildRoot forbidden, Alike Fault.BothOverlong World.Reordered
    (pipeline.finalize tools buildRoot forbidden) (pipeline.finalize tools buildRoot forbidden) w v
  merge : ∀ extra, Alike Fault.BothOverlong World.Reordered (pipeline.merge tools extra)
    (pipeline.merge tools extra) w v
  report : ∀ extra, Alike Fault.BothOverlong World.Reordered (pipeline.report tools extra)
      (pipeline.report tools extra) w v ∨
    pipeline.Blocked tools (pipeline.settings.reportArguments ++ extra) w v

/-- **The order of listings does not show**, but in failures.  In worlds that differ in it only,
with tools that do not tell them apart, searches and phases do the same, up to which of several
names is refused first and what is left of an old report that cannot be removed; and the order in
which samples are handed to the profile tool does not show in its command line either. -/
theorem order_never_shows (htools : tools.Orderless) (hroot : pipeline.workspace.Absolute)
    (h : w.Reordered v) : pipeline.Unordered tools w v ∧
      ∀ tool profile extra (samples others : List Path), samples.Perm others →
        Tool.mergeCommand tool samples profile extra =
          Tool.mergeCommand tool others profile extra := by
  refine ⟨⟨fun root marker forbidden => alike_discover root h,
    Workspace.alike_groups hroot h, fun name => conceals_findObject hroot name _ _ h,
    fun buildRoot forbidden => alike_finalize htools buildRoot forbidden h,
    fun extra => alike_merge htools hroot h, fun extra => alike_report htools hroot h⟩, ?_⟩
  intro tool profile extra samples others hperm
  rw [Tool.mergeCommand, Tool.mergeCommand, Tool.mergeInputs_perm hperm]

/-! ## A disk turned around -/

section Samples

open Disk Workspace

/-- The world with the entries of its disk the other way around. -/
def turned (w : World) : World :=
  { w with disk := { w.disk with entries := w.disk.entries.reverse } }

lemma reordered_turned {w : World} (h : w.disk.Distinct) : w.Reordered (turned w) :=
  ⟨⟨rfl, rfl, List.reverse_perm _, h⟩, rfl⟩

lemma orderless_answer {action : Disk.Action Unit} (h : Conceals Disk.Reordered action)
    {disk other : Disk} (hdisk : Disk.Reordered disk other) :
    (Tool.answer action disk).Reordered (Tool.answer action other) := by
  obtain ⟨r, after, hend⟩ := exists_ends action disk
  obtain ⟨after', hend', hafter⟩ := h _ _ hdisk _ _ hend
  have hrun : action.run.run disk = (r, after) := hend
  have hrun' : action.run.run other = (r, after') := hend'
  rw [Tool.answer, Tool.answer, hrun, hrun']
  cases r with
  | ok value => exact ⟨rfl, rfl, rfl, hafter⟩
  | error error => exact ⟨rfl, rfl, rfl, hafter⟩

/-- Tools that go by the files they are told do not tell such worlds apart. -/
lemma orderless_suite : Tool.suite.Orderless := by
  intro calls request disk other h
  have hcontent (path : Path) : other.content? path = disk.content? path := by
    simp only [Disk.content?, h.look_eq]
  have hjoiner : (Tool.joiner calls request disk).Reordered (Tool.joiner calls request other) := by
    unfold Tool.joiner
    simp only [hcontent]
    split
    · split
      · exact ⟨rfl, rfl, rfl, h⟩
      · exact orderless_answer (Disk.conceals_write _) h
    · exact ⟨rfl, rfl, rfl, h⟩
  unfold Tool.suite
  split
  · exact orderless_answer (Disk.conceals_makeDirectory.bind fun _ => Disk.conceals_write _) h
  · exact hjoiner

lemma absolute_profilePipeline : profilePipeline.workspace.Absolute := by
  rintro root hbound
  obtain rfl := Option.some.inj hbound
  rfl

/-- Three groups of samples, listed one way and the other. -/
theorem order_never_shows_turned :
    Tool.suite.Orderless ∧ profilePipeline.workspace.Absolute ∧
      rawWorld.Reordered (turned rawWorld) ∧
      profilePipeline.Unordered Tool.suite rawWorld (turned rawWorld) ∧
      ∀ tool profile extra (samples others : List Path), samples.Perm others →
        Tool.mergeCommand tool samples profile extra =
          Tool.mergeCommand tool others profile extra := by
  have hturned : rawWorld.Reordered (turned rawWorld) := reordered_turned (by decide +kernel)
  exact ⟨orderless_suite, absolute_profilePipeline, hturned,
    order_never_shows orderless_suite absolute_profilePipeline hturned⟩

/-- The old report of `a`: a file, and something that the system holds. -/
def heldReport : List (Location × Node) :=
  [(["b.o", "a", "reports", "w"], .file (Text.octetsOf "o") false),
    (["mnt", "a", "reports", "w"], .directory)]

/-- Samples of `a` and `b`.  The object of `b` is kept in the old report of `a`, which cannot be
removed. -/
def heldWorld (report : List (Location × Node)) : World where
  disk :=
    let file (location : Location) (text : String) : Location × Node :=
      (location, .file (Text.octetsOf text) false)
    { here := []
      entries := [(["w"], .directory), (["raw-profiles", "w"], .directory),
        (["a", "raw-profiles", "w"], .directory), file ["s.profraw", "a", "raw-profiles", "w"] "x",
        (["b", "raw-profiles", "w"], .directory), file ["s.profraw", "b", "raw-profiles", "w"] "x",
        (["merged-profiles", "w"], .directory), (["staging", "w"], .directory),
        file ["a.o", "staging", "w"] "o", (["objects", "w"], .directory),
        (["b.o", "objects", "w"], .link (pathOf ["b.o", "a", "reports", "w"])),
        (["reports", "w"], .directory), (["a", "reports", "w"], .directory)] ++ report
      mounts := [["mnt", "a", "reports", "w"]] }
  clock := ⟨2024, 5, 1, 0, 0, 0, 0⟩

/-- What a report run does when it has searched for samples. -/
def reportGroups (pipeline : Pipeline) (tools : Toolbox) (groups : List Group) :
    Run ReportSummary := do
  let merges ← groups.mapM (pipeline.mergeGroup tools pipeline.settings.mergeArguments)
  let reports ← merges.mapM (pipeline.reportOne tools pipeline.settings.reportArguments)
  pipeline.conclude ⟨merges, reports⟩

lemma report_eq_reportGroups {pipeline : Pipeline} {tools : Toolbox} :
    pipeline.report tools [] = pipeline.workspace.groups >>= pipeline.reportGroups tools := by
  rw [report_eq, mergeAll_eq]
  simp only [batch, bind_assoc, pure_bind, id_eq, List.append_nil]
  rfl

lemma ends_groups_heldWorld (report : List (Location × Node))
    (hreport : report ∈ [heldReport, heldReport.reverse]) :
    Ends profilePipeline.workspace.groups (heldWorld report)
      (.ok [rawGroup "a", rawGroup "b"]) (heldWorld report) :=
  ends_groups_of_samples ["a", "b"] (by revert report; decide +kernel)
    (by revert report; decide +kernel) (by revert report; decide +kernel)

/-- **Behind an old report that cannot be removed, the order of listings shows.**  The object of
`b` goes before the removal is given up, or does not: then every report fails and the run with it,
or one is rendered, by a call that the other run does not make. -/
theorem order_shows_of_held :
    Tool.suite.Orderless ∧ profilePipeline.workspace.Absolute ∧
    (heldWorld heldReport).Reordered (heldWorld heldReport.reverse) ∧
    ∃ after after' summary,
      Ends (profilePipeline.report Tool.suite []) (heldWorld heldReport)
        (.error (.phase (.reports 1))) after ∧
      Ends (profilePipeline.report Tool.suite []) (heldWorld heldReport.reverse)
        (.ok summary) after' ∧
      summary.reports.map (·.state) = [.failed, .reported] ∧
      after.calls.length = 2 ∧ after'.calls.length = 3 := by
  have hreordered : (heldWorld heldReport).Reordered (heldWorld heldReport.reverse) :=
    ⟨⟨rfl, rfl, List.Perm.append_left _ (List.reverse_perm _), by decide +kernel⟩, rfl⟩
  let run := profilePipeline.reportGroups Tool.suite [rawGroup "a", rawGroup "b"]
  have hfailed : (run.run.run (heldWorld heldReport)).1 = .error (.phase (.reports 1)) ∧
      (run.run.run (heldWorld heldReport)).2.calls.length = 2 := by
    decide +kernel
  have hrendered : (run.run.run (heldWorld heldReport.reverse)).1.map
      (fun summary => summary.reports.map (·.state)) = .ok [.failed, .reported] ∧
      (run.run.run (heldWorld heldReport.reverse)).2.calls.length = 3 := by
    decide +kernel
  rw [report_eq_reportGroups]
  refine ⟨orderless_suite, absolute_profilePipeline, hreordered,
    (run.run.run (heldWorld heldReport)).2, (run.run.run (heldWorld heldReport.reverse)).2, ?_⟩
  generalize hr : (run.run.run (heldWorld heldReport.reverse)).1 = r at hrendered
  cases r with
  | error fault => cases hrendered.1
  | ok summary =>
    exact ⟨summary, (ends_groups_heldWorld _ (by simp)).bind (ends_of_result hfailed.1),
      (ends_groups_heldWorld _ (by simp)).bind (ends_of_result hr), Except.ok.inj hrendered.1,
      hfailed.2, hrendered.2⟩

end Samples

end Pipeline

end WasmCoverage
