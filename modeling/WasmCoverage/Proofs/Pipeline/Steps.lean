import WasmCoverage.Proofs.Disk.Refusals
import WasmCoverage.Proofs.Pipeline.Finalize
import WasmCoverage.Proofs.Pipeline.Merge
import WasmCoverage.Proofs.Pipeline.Report

/-!
# What stops a step

A step of a phase records what goes wrong with its item and answers with an outcome.  Yet not all
that a step does is guarded.  For each of the three kinds of steps this module says what an outcome
tells about its item, and what else can happen:

* `finalizeModule_ends`: a failed module is asked for its staged IR, and its path may be too long;
* `mergeGroup_ends`: the place of a profile is found and cleared outside of what is tried, and only
  failures of the tool are caught there;
* `reportOne_ends`: the object and the directory of the report are found outside of what is tried.

Nothing is assumed of the tools but that a call which fails fails with a failure of the tool.
-/

namespace WasmCoverage

open WasmCoverage.Disk WasmCoverage.Text

/-- A call that fails fails with a failure of the tool. -/
def Toolbox.Orderly (tools : Toolbox) : Prop :=
  ∀ calls request disk fault, (tools calls request disk).outcome = .error fault →
    ∃ failure, fault = .tool failure

/-- The fault is no judgement on a phase as a whole. -/
def Fault.Unjudged (fault : Fault) : Prop :=
  ∀ judgement, fault ≠ .phase judgement

/-- The fault concerns one item. -/
abbrev Fault.OfItem (fault : Fault) : Prop :=
  fault.isItemFault = true

variable {tools : Toolbox} {w w' : World}

lemma Toolbox.Orderly.failsOnly_call (htools : tools.Orderly) (request : Call) :
    FailsOnly (fun fault => ∃ failure, fault = .tool failure) (call tools request) := by
  intro w fault w' h
  exact htools _ _ _ _ (ends_call.1 h).1.symm

lemma Toolbox.Orderly.ofItem_call (htools : tools.Orderly) (request : Call) :
    FailsOnly Fault.OfItem (call tools request) :=
  (htools.failsOnly_call request).mono fun fault hfault => by
    obtain ⟨failure, rfl⟩ := hfault
    rfl

/-! ## Faults of the workspace and the disk -/

lemma unjudged_onDisk {α : Type} (action : Disk.Action α) :
    FailsOnly Fault.Unjudged (onDisk action) :=
  (failsOnly_true action).onDisk fun _ _ _ => by simp

lemma unjudged_onDiskOr {α : Type} {reword : Disk.Error → Fault} (action : Disk.Action α)
    (h : ∀ error, (reword error).Unjudged) : FailsOnly Fault.Unjudged (onDiskOr reword action) := by
  refine (failsOnly_true action).onDiskOr fun error _ => ?_
  unfold passedOn
  split
  · exact h error
  · exact fun _ => by simp

lemma unjudged_store {workspace : Workspace} (store : Store) :
    FailsOnly Fault.Unjudged (workspace.store store) := by
  have hroot : FailsOnly Fault.Unjudged workspace.root := by
    unfold Workspace.root
    split
    · exact FailsOnly.pure _
    · exact FailsOnly.throw fun _ => by simp
  refine hroot.bind fun root => ?_
  exact (unjudged_onDiskOr _ fun _ _ => by simp).bind fun _ => FailsOnly.pure _

lemma unjudged_directoryName (name : String) :
    FailsOnly Fault.Unjudged (Workspace.directoryName name) := by
  unfold Workspace.directoryName
  split
  · exact FailsOnly.pure _
  · exact FailsOnly.throw fun _ => by simp

lemma unjudged_mergedProfile {workspace : Workspace} (name : String) :
    FailsOnly Fault.Unjudged (workspace.mergedProfile name) :=
  (unjudged_store _).bind fun _ => (unjudged_directoryName _).bind fun _ => FailsOnly.pure _

lemma unjudged_reportDirectory {workspace : Workspace} (name : String) :
    FailsOnly Fault.Unjudged (workspace.reportDirectory name) :=
  (unjudged_store _).bind fun _ => (unjudged_directoryName _).bind fun _ => FailsOnly.pure _

lemma unjudged_groups {workspace : Workspace} : FailsOnly Fault.Unjudged workspace.groups :=
  (unjudged_store _).bind fun _ => unjudged_onDisk _

lemma unjudged_pairing (module : Path) : FailsOnly Fault.Unjudged (pairing module) := by
  unfold pairing
  split
  · exact FailsOnly.throw fun _ => by simp
  · refine (unjudged_onDisk _).bind fun found => ?_
    split
    · exact FailsOnly.pure _
    · exact FailsOnly.pure _

lemma unjudged_isInstrumented (forbidden : Forbidden) (marker : Octets) (path : Path) :
    FailsOnly Fault.Unjudged (isInstrumented forbidden marker path) := by
  rw [isInstrumented_eq]
  split
  · exact FailsOnly.throw fun _ => by simp
  · refine ((unjudged_onDisk _).bind fun _ => FailsOnly.pure _).tryCatch fun fault hfault => ?_
    split
    · exact (FailsOnly.journal _ _ _).bind fun _ => FailsOnly.pure _
    · exact FailsOnly.throw hfault

lemma unjudged_modulesAmong (forbidden : Forbidden) (marker : Octets) : ∀ paths : List Path,
    FailsOnly Fault.Unjudged (modulesAmong forbidden marker paths)
  | [] => FailsOnly.pure _
  | path :: rest => by
      refine (unjudged_isInstrumented _ _ path).bind fun instrumented => ?_
      split
      · exact (unjudged_pairing path).bind fun _ =>
          (unjudged_modulesAmong forbidden marker rest).bind fun _ => FailsOnly.pure _
      · exact unjudged_modulesAmong forbidden marker rest

lemma unjudged_discover (root : Path) (marker : Octets) (forbidden : Forbidden) :
    FailsOnly Fault.Unjudged (discover root marker forbidden) := by
  have hrest : FailsOnly Fault.Unjudged (do
      let base ← onDisk (Disk.resolve root)
      let found ← onDiskOr (fun error => .scan (.failed base error)) (Disk.candidates base)
      modulesAmong forbidden marker found) :=
    (unjudged_onDisk _).bind fun _ => (unjudged_onDiskOr _ fun _ _ => by simp).bind fun _ =>
      unjudged_modulesAmong _ _ _
  unfold discover
  refine (unjudged_onDisk _).bind fun found => ?_
  split
  · exact hrest
  · exact FailsOnly.bind (FailsOnly.throw fun _ => by simp) fun _ => hrest

/-! ## Modules that were found -/

/-- There is no NUL in the path of the module, nor in that of its IR. -/
structure Module.Clean (m : Module) : Prop where
  path : hasNul m.path = false
  ir : ∀ ir, m.ir? = some ir → hasNul ir = false

/-- Who is instrumented could be read. -/
lemma hasNul_of_isInstrumented {forbidden : Forbidden} {marker : Octets} {path : Path}
    (h : Ends (isInstrumented forbidden marker path) w (.ok true) w') : hasNul path = false := by
  rw [isInstrumented_eq] at h
  split at h
  · cases (ends_throw.1 h).1
  · rcases ends_tryCatch.1 h with ⟨value, hread, -⟩ | ⟨fault, t, -, hhandled⟩
    · obtain ⟨data, t, hdata, -⟩ := ends_bind_ok.1 hread
      obtain ⟨disk, haction, -⟩ := ends_onDisk_ok.1 hdata
      unfold readCandidate at haction
      split at haction
      · obtain ⟨_, d, hrefuse, -⟩ := ends_bind_ok.1 haction
        cases (ends_refuse.1 hrefuse).1
      · exact (ends_read_ok.1 haction).1.1
    · split at hhandled
      · obtain ⟨_, t', -, hlast⟩ := ends_bind_ok.1 hhandled
        cases (ends_pure.1 hlast).1
      · cases (ends_throw.1 hhandled).1

lemma hasNul_of_pairing {path : Path} {found : Pairing}
    (h : Ends (pairing path) w (.ok found) w') (ir : Path)
    (hir : Module.ir? ⟨path, found⟩ = some ir) : hasNul ir = false := by
  unfold pairing at h
  split at h
  · cases (ends_throw.1 h).1
  · obtain ⟨there, t, hthere, hrest⟩ := ends_bind_ok.1 h
    split at hrest
    · next htrue =>
        obtain rfl := Except.ok.inj (ends_pure.1 hrest).1
        obtain rfl := Option.some.inj hir
        obtain ⟨disk, haction, -⟩ := ends_onDisk_ok.1 hthere
        rw [htrue] at haction
        exact (ends_isFile_true.1 haction).1.1
    · obtain rfl := Except.ok.inj (ends_pure.1 hrest).1
      cases hir

lemma clean_of_mem_modulesAmong {forbidden : Forbidden} {marker : Octets} :
    ∀ {paths : List Path} {modules : List Module} {w w' : World},
    Ends (modulesAmong forbidden marker paths) w (.ok modules) w' → ∀ m ∈ modules, m.Clean
  | [], modules, w, w', h => by
      obtain rfl := Except.ok.inj (ends_pure.1 h).1
      simp
  | path :: rest, modules, w, w', h => by
      obtain ⟨instrumented, t, hinstrumented, hrest⟩ := ends_bind_ok.1 h
      split at hrest
      · next htrue =>
          rw [htrue] at hinstrumented
          obtain ⟨found, t', hfound, hrest⟩ := ends_bind_ok.1 hrest
          obtain ⟨others, t'', hothers, hlast⟩ := ends_bind_ok.1 hrest
          obtain rfl := Except.ok.inj (ends_pure.1 hlast).1
          rw [List.forall_mem_cons]
          exact ⟨⟨hasNul_of_isInstrumented hinstrumented, hasNul_of_pairing hfound⟩,
            clean_of_mem_modulesAmong hothers⟩
      · exact clean_of_mem_modulesAmong hrest

/-- **No path of a module that was found has a NUL in it**, for its file could be read. -/
theorem discover_clean {root : Path} {marker : Octets} {forbidden : Forbidden}
    {modules : List Module} (h : Ends (discover root marker forbidden) w (.ok modules) w') :
    ∀ m ∈ modules, m.Clean := by
  obtain ⟨-, base, paths, -, -, hlast⟩ := ends_discover_ok.1 h
  exact clean_of_mem_modulesAmong hlast

namespace Pipeline

variable {pipeline : Pipeline} {extra : List String} {staging : Path} {m : Module}

/-! ## Finalizing a module -/

/-- A module was given an outcome: it has no IR exactly if the outcome says so, and then no tool
was called. -/
structure Finalizes (w : World) (m : Module) (outcome : ArtifactOutcome) (w' : World) : Prop where
  name : outcome.name = m.name
  modulePath : outcome.modulePath = m.path.text
  irMissing : outcome.status = .irMissing ↔ m.ir? = none
  quiet : outcome.status = .irMissing → Quiet w w'

/-- A module was given none: it failed, and the path of its staged IR is too long. -/
structure FinalizeStops (staging : Path) (m : Module) (fault : Fault) (w' : World) : Prop where
  paired : m.ir? ≠ none
  tooLong : w'.disk.look (staging.child (m.name ++ irSuffix)) true = .error .nameTooLong
  fault : fault = .disk (.system (Cause.nameTooLong.about (staging.child (m.name ++ irSuffix))))

lemma ofItem_neutralizeFile {source target : Path} (hsource : hasNul source = false)
    (htarget : hasNul target = false) :
    FailsOnly Fault.OfItem (Ir.neutralizeFile source target) := by
  have hpassed {reword : Disk.Error → Fault} (hreword : ∀ error, (reword error).OfItem)
      (error : Disk.Error) (h : Refused error) : (passedOn reword error).OfItem := by
    rw [passedOn, if_pos h]
    exact hreword error
  unfold Ir.neutralizeFile
  refine ((refused_read hsource).onDiskOr (hpassed fun _ => rfl)).bind fun octets => ?_
  split
  · exact FailsOnly.throw rfl
  · refine FailsOnly.bind ?_ fun _ => FailsOnly.pure _
    refine FailsOnly.onDiskOr (Q := Refused) ?_ (hpassed fun _ => rfl)
    exact (refused_makeDirectories (hasNul_parent htarget)).bind fun _ => refused_write htarget _

/-- **Staging fails with faults of the item only.** -/
theorem ofItem_stage (htools : tools.Orderly) {module ir stagedIr object copy : Path}
    (hmodule : hasNul module = false) (hir : hasNul ir = false) (hstaged : hasNul stagedIr = false)
    (hobject : hasNul object = false) (hcopy : hasNul copy = false) :
    FailsOnly Fault.OfItem (pipeline.stage tools module ir stagedIr object copy) := by
  have hdisk (error : Disk.Error) (h : Refused error) : (Fault.disk error).OfItem := h
  unfold stage Tool.compile
  refine (ofItem_neutralizeFile hir hstaged).bind fun count => ?_
  refine FailsOnly.bind (FailsOnly.journal _ _ _) fun _ => FailsOnly.bind ?_ fun _ => ?_
  · refine ((refused_makeDirectories (hasNul_parent hobject)).onDisk hdisk).bind fun _ => ?_
    exact (htools.ofItem_call _).bind fun _ => FailsOnly.pure _
  · exact ((refused_copyFile hmodule hcopy).onDisk hdisk).bind fun _ => FailsOnly.pure _

/-- **A step of a finalization** answers with an outcome, or is stopped by a path that is too
long. -/
theorem finalizeModule_ends (htools : tools.Orderly) (hstaging : hasNul staging = false)
    (hsound : m.Sound) (hclean : m.Clean) {r : Except Fault ArtifactOutcome}
    (h : Ends (pipeline.finalizeModule tools staging m) w r w') :
    (∃ outcome, r = .ok outcome ∧ Finalizes w m outcome w') ∨
      ∃ fault, r = .error fault ∧ FinalizeStops staging m fault w' := by
  cases hir : m.ir? with
  | none =>
      unfold finalizeModule at h
      rw [hir] at h
      obtain ⟨rfl, rfl⟩ := ends_pure.1 (ends_note_bind.1 (ends_note_bind.1 h))
      exact Or.inl ⟨_, rfl, rfl, rfl, by simp [hir], fun _ => rfl⟩
  | some ir =>
      cases r with
      | ok outcome =>
          obtain ⟨hname, hpath, hmissing⟩ := name_of_finalizeModule h
          have hstatus : outcome.status ≠ .irMissing := fun hs => by simp [hmissing hs] at hir
          exact Or.inl ⟨outcome, rfl, hname, hpath, by simp [hstatus, hir],
            fun hs => absurd hs hstatus⟩
      | error fault =>
          have hstem (suffix : String) (hsuffix : '\x00' ∉ suffix.toList) :
              '\x00' ∉ (m.name ++ suffix).toList := by
            rw [String.toList_append, List.mem_append, not_or]
            exact ⟨not_mem_stem hclean.path, hsuffix⟩
          have hstage : FailsOnly Fault.OfItem (pipeline.stage tools m.path ir
              (staging.child (m.name ++ irSuffix)) (staging.child (m.name ++ objectSuffix))
              (staging.child m.path.name)) := by
            refine ofItem_stage htools hclean.path (hclean.ir ir hir) ?_ ?_ ?_
            · exact hasNul_child hsound.isName_ir hstaging (hstem _ (by decide))
            · exact hasNul_child hsound.isName_object hstaging (hstem _ (by decide))
            · exact hasNul_child hsound.isName hstaging (not_mem_name hclean.path)
          unfold finalizeModule at h
          rw [hir] at h
          have hrest := ends_note_bind.1 h
          simp only [processModule_eq] at hrest
          rcases ends_tryCatch.1 hrest with ⟨_, -, hr⟩ | ⟨fault', t, htried, hhandled⟩
          · cases hr
          have hitem : fault'.OfItem :=
            (hstage.bind fun _ => FailsOnly.pure _) _ _ _ htried
          rw [if_pos hitem] at hhandled
          rcases ends_bind.1 (ends_note_bind.1 hhandled) with ⟨there, t', -, hlast⟩ |
            ⟨fault'', hthere, hr⟩
          · cases (ends_pure.1 hlast).1
          · obtain rfl := Except.error.inj hr
            obtain ⟨result, disk, haction, hresult, rfl⟩ := ends_onDisk.1 hthere
            cases result with
            | ok value => cases hresult
            | error error =>
                obtain ⟨rfl, rfl, hlook⟩ := ends_leadsTo_error haction
                exact Or.inr ⟨fault, rfl, by simp [hir], hlook, Except.error.inj hresult⟩

/-! ## Merging a group -/

variable {group : Workspace.Group} {profile : Path}

/-- A group was given an outcome.  One call of the tool was made for its samples, and the outcome
says how that call ended. -/
structure Merges (pipeline : Pipeline) (tools : Toolbox) (extra : List String) (w : World)
    (group : Workspace.Group) (outcome : MergeOutcome) (w' : World) : Prop where
  name : outcome.name = group.name
  sampleCount : outcome.sampleCount = group.samples.length
  called : ∃ profile called, Quiet w called ∧ outcome.profilePath = profile.text ∧
    w'.calls = w.calls ++ [⟨false, Tool.mergeCommand pipeline.toolchain.llvmProfdata group.samples
      profile extra, none⟩] ∧
    (outcome.status = .failed ↔ ∃ failure, (answerTo tools pipeline.toolchain.llvmProfdata extra
      group profile called).outcome = .error (.tool failure))

/-- A group was given none, for something that a step does not guard failed. -/
inductive MergeStops (pipeline : Pipeline) (tools : Toolbox) (extra : List String) (w : World)
    (group : Workspace.Group) : Fault → World → Prop
  /-- There is no store for the profile, or no name. -/
  | unplaced {fault : Fault} {w' : World}
      (h : Ends (pipeline.workspace.mergedProfile group.name) w (.error fault) w') :
      MergeStops pipeline tools extra w group fault w'
  /-- The path of the profile is too long. -/
  | tooLong {profile : Path} {t w' : World}
      (place : Ends (pipeline.workspace.mergedProfile group.name) w (.ok profile) t)
      (h : t.disk.find profile false = .error .nameTooLong) :
      MergeStops pipeline tools extra w group
        (.disk (.system (Cause.nameTooLong.about profile))) w'
  /-- There is a directory in the place of the profile. -/
  | blocked {profile : Path} {location : Location} {t w' : World}
      (place : Ends (pipeline.workspace.mergedProfile group.name) w (.ok profile) t)
      (leads : t.disk.find profile false = .ok location)
      (h : t.disk.node? location = some .directory) :
      MergeStops pipeline tools extra w group
        (.disk (.system (Cause.isDirectory.about profile))) w'
  /-- The directory that the profile is to be written to cannot be made. -/
  | unmade {profile : Path} {t w' : World} {error : Disk.Error}
      (prepared : Ends (pipeline.prepare group) w (.ok profile) t)
      (h : Ends (makeDirectories profile.parent) t.disk (.error error) w'.disk) :
      MergeStops pipeline tools extra w group (.disk error) w'
  /-- The tool failed, and what it left cannot be removed. -/
  | remains {profile : Path} {t called w' : World} {failure : Tool.Failure} {error : Disk.Error}
      (prepared : Ends (pipeline.prepare group) w (.ok profile) t)
      (made : Ends (onDisk (makeDirectories profile.parent)) t (.ok ()) called)
      (failed : (answerTo tools pipeline.toolchain.llvmProfdata extra group profile
        called).outcome = .error (.tool failure))
      (h : Ends (removeIfThere profile) (answerTo tools pipeline.toolchain.llvmProfdata extra group
        profile called).disk (.error error) w'.disk) :
      MergeStops pipeline tools extra w group (.disk error) w'

lemma MergeStops.unjudged {fault : Fault}
    (h : pipeline.MergeStops tools extra w group fault w') : fault.Unjudged := by
  cases h with
  | unplaced h => exact unjudged_mergedProfile _ _ _ _ h
  | tooLong | blocked | unmade | remains => exact fun _ => by simp

lemma quiet_prepare (group : Workspace.Group) : Respects Quiet (pipeline.prepare group) :=
  (onlyDisk_mergedProfile _).quiet.bind fun _ => (quiet_note _ _).bind fun _ =>
    ((OnlyDisk.onDisk _).bind fun _ => OnlyDisk.pure _).quiet

/-- A profile whose place is found is cleared or not, as the disk says. -/
lemma ends_prepare {cleared : Except Disk.Error Unit}
    {disk : Disk} (hplace : Ends (pipeline.workspace.mergedProfile group.name) w (.ok profile) w')
    (hclear : Ends (removeIfThere profile) w'.disk cleared disk) : ∃ t,
      Ends (pipeline.prepare group) w ((cleared.mapError Fault.disk).map fun _ => profile) t ∧
        t.disk = disk ∧ t.calls = w'.calls := by
  have hlast (u : World) (hu : u.disk = w'.disk) : Ends (do
      onDisk (removeIfThere profile)
      return profile : Run Path) u ((cleared.mapError Fault.disk).map fun _ => profile)
      { u with disk := disk } := by
    rw [← hu] at hclear
    cases cleared with
    | ok value => exact (ends_onDisk_ok.2 ⟨disk, hclear, rfl⟩).bind (ends_pure.2 ⟨rfl, rfl⟩)
    | error error => exact Ends.bind_error (ends_onDisk.2 ⟨_, disk, hclear, rfl, rfl⟩)
  exact ⟨_, hplace.bind (ends_note_bind.2 (hlast _ rfl)), rfl, rfl⟩

/-- The place of a profile is not cleared if it is not found, or if what is there stays. -/
lemma prepare_error {fault : Fault} (h : Ends (pipeline.prepare group) w (.error fault) w') :
    pipeline.MergeStops tools extra w group fault w' := by
  rcases ends_bind.1 h with ⟨profile, t, hplace, hrest⟩ | ⟨_, hplace, hr⟩
  · rcases ends_bind.1 (ends_note_bind.1 hrest) with ⟨_, t', -, hlast⟩ | ⟨_, hremove, hr⟩
    · cases (ends_pure.1 hlast).1
    · obtain rfl := Except.error.inj hr
      obtain ⟨result, disk, haction, hresult, rfl⟩ := ends_onDisk.1 hremove
      cases result with
      | ok value => cases hresult
      | error error =>
          obtain rfl := Except.error.inj hresult
          obtain ⟨store, made, hstore, hmade, rfl⟩ := mergedProfile_spec hplace
          obtain ⟨hnul, location, hleads, hstands⟩ := Workspace.hasDirectory_store hstore
          have hclean : '\x00' ∉ (made ++ mergedSuffix).toList := by
            rw [String.toList_append, List.mem_append, not_or]
            exact ⟨Artifact.not_mem_directoryName hmade (by decide), by decide⟩
          rcases removeIfThere_entry_error hleads hstands (isName_profile hmade)
            (hasNul_child (isName_profile hmade) hnul hclean) haction with
            ⟨hlong, rfl⟩ | ⟨hleads', hdir, rfl⟩
          · exact .tooLong hplace hlong
          · exact .blocked hplace hleads' hdir
  · obtain rfl := Except.error.inj hr
    exact .unplaced hplace

/-- **A step of a merge** answers with an outcome, or is stopped by something that it does not
guard. -/
theorem mergeGroup_ends (htools : tools.Orderly) (hsamples : group.samples ≠ [])
    {r : Except Fault MergeOutcome} (h : Ends (pipeline.mergeGroup tools extra group) w r w') :
    (∃ outcome, r = .ok outcome ∧ pipeline.Merges tools extra w group outcome w') ∨
      ∃ fault, r = .error fault ∧ pipeline.MergeStops tools extra w group fault w' := by
  rw [mergeGroup_eq] at h
  rcases (ends_bind.1 h).symm with ⟨fault, hprepare, rfl⟩ | ⟨profile, t, hprepare, hattempt⟩
  · exact Or.inr ⟨fault, rfl, prepare_error hprepare⟩
  have hprepared : Quiet w t := quiet_prepare _ _ _ _ hprepare
  have hcalled {called : World} (hmake : Ends (onDisk (makeDirectories profile.parent)) t (.ok ())
      called) : Quiet w called := ((OnlyDisk.onDisk _).quiet _ _ _ hmake).trans hprepared
  rcases attempt_ends hattempt with ⟨path, t', rfl, hcall, hquiet, -⟩ |
    ⟨failure, t', hcall, hquiet, hhandled⟩ | ⟨fault, rfl, hother, hcall⟩
  · rcases mergeProfiles_ends hsamples hcall with ⟨_, hr, -⟩ | ⟨called, hmake, -, hcalls, hr⟩
    · cases hr
    refine Or.inl ⟨_, rfl, rfl, rfl, profile, called, hcalled hmake, rfl, ?_, ?_, ?_⟩
    · rw [hquiet, hcalls, hprepared]
    · rintro ⟨⟩
    · rintro ⟨failure, hfailure⟩
      rw [hfailure] at hr
      cases hr
  · rcases mergeProfiles_ends hsamples hcall with ⟨_, hr, -⟩ | ⟨called, hmake, hdisk, hcalls, hr⟩
    · cases hr
    have houtcome := map_eq_error_iff.1 hr.symm
    rcases hhandled with ⟨rfl, -⟩ | ⟨error, rfl, hremove⟩
    · refine Or.inl ⟨_, rfl, rfl, rfl, profile, called, hcalled hmake, rfl, ?_,
        fun _ => ⟨failure, houtcome⟩, fun _ => rfl⟩
      rw [hquiet, hcalls, hprepared]
    · rw [hdisk] at hremove
      exact Or.inr ⟨_, rfl, .remains hprepare hmake houtcome hremove⟩
  · rcases mergeProfiles_ends hsamples hcall with ⟨error, hr, -, hmake⟩ | ⟨called, -, -, -, hr⟩
    · obtain rfl := Except.error.inj hr
      exact Or.inr ⟨_, rfl, .unmade hprepare hmake⟩
    · obtain ⟨failure, rfl⟩ := htools _ _ _ _ (map_eq_error_iff.1 hr.symm)
      exact absurd rfl (hother failure)

/-- If nothing is in the way of its profile and the tool succeeds, a group is merged. -/
lemma ends_mergeGroup_merged {output : String}
    (hsamples : group.samples ≠ [])
    (hplace : Ends (pipeline.workspace.mergedProfile group.name) w (.ok profile) w)
    (hclear : Ends (removeIfThere profile) w.disk (.ok ()) w.disk)
    (hdirectory : Ends (makeDirectories profile.parent) w.disk (.ok ()) w.disk)
    (houtput : (tools.merging pipeline.toolchain.llvmProfdata extra w.calls group.samples profile
      w.disk).outcome = .ok output) : ∃ after,
      Ends (pipeline.mergeGroup tools extra group) w (.ok (mergedOutcome group profile)) after ∧
        after.disk = (tools.merging pipeline.toolchain.llvmProfdata extra w.calls group.samples
          profile w.disk).disk := by
  obtain ⟨t, hprepare, ht, hcalls⟩ := ends_prepare hplace hclear
  obtain ⟨r, t', hcall⟩ := exists_ends (Tool.mergeProfiles tools pipeline.toolchain.llvmProfdata
    group.samples profile extra) t
  rw [← ht] at hdirectory
  rcases mergeProfiles_ends hsamples hcall with ⟨error, -, -, hmake⟩ |
    ⟨called, hmake, hdisk, -, hr⟩
  · cases (hmake.unique hdirectory).1
  obtain ⟨-, rfl⟩ := hmake.unique (ends_onDisk_ok.2 ⟨t.disk, hdirectory, rfl⟩)
  have hanswer : answerTo tools pipeline.toolchain.llvmProfdata extra group profile t =
      tools.merging pipeline.toolchain.llvmProfdata extra w.calls group.samples profile w.disk := by
    rw [answerTo, hcalls, ht]
  rw [hanswer] at hr hdisk
  rw [houtput] at hr
  obtain rfl : r = .ok profile := hr
  rw [mergeGroup_eq]
  have hattempt : Ends (pipeline.attempt tools extra group profile) t
      (.ok (mergedOutcome group profile))
      (noted .info ("Profdata file has been saved to " ++ profile.text) t') :=
    (hcall.bind (ends_note_bind.2 (ends_pure.2 ⟨rfl, rfl⟩))).catch_ok
  exact ⟨_, hprepare.bind hattempt, hdisk⟩

/-! ## Reporting a binary -/

variable {merged : MergeOutcome} {object directory : Path}

/-- The binary of an outcome was given a report outcome.  No report tool is called for a binary
that was not merged, or for one without an object, and the outcome says so. -/
structure Reports (pipeline : Pipeline) (w : World) (merged : MergeOutcome)
    (outcome : ReportOutcome) (w' : World) : Prop where
  name : outcome.name = merged.name
  state : outcome.state = .failed ∨ outcome.state = .objectMissing ∨ outcome.state = .reported
  unmerged : merged.status = .failed → outcome.state = .failed ∧ Quiet w w'
  objectMissing : merged.status = .merged → (outcome.state = .objectMissing ↔
    ∃ t, Ends (pipeline.findObject merged.name.lossy) w (.ok none) t)
  quiet : outcome.state = .objectMissing → Quiet w w'

/-- A binary was given none: its object, or the place of its report, cannot be looked for. -/
inductive ReportStops (pipeline : Pipeline) (w : World) (merged : MergeOutcome) : Fault → Prop
  /-- The stores, or what is in them, cannot be looked through. -/
  | unsearched {fault : Fault} {t : World}
      (h : Ends (pipeline.findObject merged.name.lossy) w (.error fault) t) :
      ReportStops pipeline w merged fault
  /-- There is no store for the report, or no name. -/
  | unplaced {fault : Fault} {object : Path} {t t' : World}
      (found : Ends (pipeline.findObject merged.name.lossy) w (.ok (some object)) t)
      (h : Ends (pipeline.workspace.reportDirectory merged.name.lossy) t (.error fault) t') :
      ReportStops pipeline w merged fault

lemma unjudged_findObject (name : String) :
    FailsOnly Fault.Unjudged (pipeline.findObject name) := by
  unfold findObject
  refine (unjudged_store _).bind fun _ => (unjudged_store _).bind fun _ => ?_
  refine (unjudged_onDisk _).bind fun found => ?_
  split
  · exact FailsOnly.pure _
  · exact unjudged_onDisk _

lemma ReportStops.unjudged {fault : Fault} (h : pipeline.ReportStops w merged fault) :
    fault.Unjudged := by
  cases h with
  | unsearched h => exact unjudged_findObject _ _ _ _ h
  | unplaced _ h => exact unjudged_reportDirectory _ _ _ _ h

lemma reportDirectory_spec {workspace : Workspace} {name : String}
    (h : Ends (workspace.reportDirectory name) w (.ok directory) w') :
    ∃ path made, Ends (workspace.store .reports) w (.ok path) w' ∧
      Artifact.directoryName name = .ok made ∧ directory = path.child made := by
  obtain ⟨path, t, hstore, hrest⟩ := ends_bind_ok.1 h
  obtain ⟨made, t', hmade, hlast⟩ := ends_bind_ok.1 hrest
  obtain ⟨hdirectory, rfl⟩ := ends_pure.1 hlast
  obtain ⟨hname, rfl⟩ := Workspace.ends_directoryName_ok.1 hmade
  exact ⟨path, made, hstore, hname, Except.ok.inj hdirectory⟩

/-- There is no NUL in the path of a report. -/
lemma hasNul_reportDirectory {workspace : Workspace} {name : String}
    (h : Ends (workspace.reportDirectory name) w (.ok directory) w') :
    hasNul directory = false := by
  obtain ⟨path, made, hstore, hmade, rfl⟩ := reportDirectory_spec h
  exact hasNul_child (Artifact.isName_directoryName hmade) (Workspace.hasDirectory_store hstore).1
    (Artifact.not_mem_directoryName hmade (by decide))

/-- **Rendering fails with faults of the item only.** -/
theorem ofItem_render (htools : tools.Orderly) (hdirectory : hasNul directory = false) :
    FailsOnly Fault.OfItem (pipeline.render tools profile object directory extra) := by
  have hdisk (error : Disk.Error) (h : Refused error) : (Fault.disk error).OfItem := h
  have hcall : FailsOnly Fault.OfItem (do
      let _ ← Tool.renderReport tools pipeline.toolchain.llvmCov profile object directory extra) :=
    ((htools.ofItem_call _).bind fun _ => FailsOnly.pure _).bind fun _ => FailsOnly.pure _
  unfold render
  refine ((refused_leadsTo _).onDisk hdisk).bind fun found => ?_
  split
  · exact ((refused_removeTree hdirectory).onDisk hdisk).bind fun _ => hcall
  · exact hcall

/-- **A step of a report run** answers with an outcome, or is stopped by something that it does not
guard. -/
theorem reportOne_ends (htools : tools.Orderly) {r : Except Fault ReportOutcome}
    (h : Ends (pipeline.reportOne tools extra merged) w r w') :
    (∃ outcome, r = .ok outcome ∧ pipeline.Reports w merged outcome w') ∨
      ∃ fault, r = .error fault ∧ pipeline.ReportStops w merged fault := by
  unfold reportOne at h
  cases hstatus : merged.status with
  | failed =>
      rw [hstatus] at h
      obtain ⟨rfl, rfl⟩ := ends_pure.1 h
      exact Or.inl ⟨_, rfl, rfl, Or.inl rfl, fun _ => ⟨rfl, rfl⟩, by simp [hstatus], fun _ => rfl⟩
  | merged =>
      rw [hstatus] at h
      have hmerged : merged.status ≠ .failed := by simp [hstatus]
      rcases reportMerged_spec h with ⟨fault, hfound, -, rfl⟩ | ⟨hfound, hquiet, rfl⟩ |
        ⟨object, t, hfound, -, hreport⟩
      · exact Or.inr ⟨fault, rfl, .unsearched hfound⟩
      · exact Or.inl ⟨_, rfl, rfl, Or.inr (Or.inl rfl), fun hs => absurd hs hmerged,
          fun _ => ⟨fun _ => ⟨_, hfound⟩, fun _ => rfl⟩, fun _ => hquiet⟩
      rw [reportObject_eq] at hreport
      rcases (ends_bind.1 hreport).symm with ⟨fault, hplace, rfl⟩ |
        ⟨directory, u, hplace, hattempt⟩
      · exact Or.inr ⟨fault, rfl, .unplaced hfound
          (onlyDisk_reportDirectory _ _ _ _ hplace _ rfl)⟩
      have hreports {outcome : ReportOutcome} (hname : outcome.name = merged.name)
          (hs : outcome.state = .failed ∨ outcome.state = .reported) :
          pipeline.Reports w merged outcome w' := by
        have hne : outcome.state ≠ .objectMissing := by rcases hs with hs | hs <;> simp [hs]
        refine ⟨hname, hs.imp_right Or.inr, fun hf => absurd hf hmerged,
          fun _ => ⟨fun hm => absurd hm hne, ?_⟩, fun hm => absurd hm hne⟩
        rintro ⟨t', hnone⟩
        cases (hfound.unique hnone).1
      rcases attemptReport_spec hattempt with ⟨_, -, rfl, -⟩ | ⟨fault, u', hrender, -, -, hr⟩
      · exact Or.inl ⟨_, rfl, hreports rfl (Or.inr rfl)⟩
      rcases hr with ⟨-, rfl⟩ | ⟨hitem, -⟩
      · exact Or.inl ⟨_, rfl, hreports rfl (Or.inl rfl)⟩
      · have hother := ofItem_render htools (hasNul_reportDirectory hplace) _ _ _ hrender
        exact absurd hother (by simp [hitem])

end Pipeline

end WasmCoverage
