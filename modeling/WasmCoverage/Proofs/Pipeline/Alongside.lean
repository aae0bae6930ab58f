import WasmCoverage.Proofs.Pipeline.Leftovers

/-!
# Beside another run

The next report run may begin with what earlier runs left or without it, and this module follows
two such runs side by side.  Their disks are `Twins`, and they have called the same tools: the
worlds are `Alongside`.  A store that is asked for stands in both (`Alongside.stored`), and the
place of a profile is cleared in both before the tool is called (`Alongside.prepare`).  So if the
tool goes by what it is given (`Toolbox.Reproducible`), the profile is the same
(`Alongside.mergeGroup`), and in the end all profiles of the run are (`Alongside.mergeGroups`).
-/

namespace WasmCoverage

open WasmCoverage.Disk WasmCoverage.Workspace

variable {pipeline : Pipeline} {tools : Toolbox} {extra : List String} {root : Location}
  {past past' : List Call} {same : Location → Prop} {w v : World} {store : Store} {made : String}

namespace Pipeline

/-! ## Tools that go by what they are given -/

/-- Nothing is in a place of a store that stands. -/
structure VacantPlace (root : Location) (store : Store) (name : String) (disk : Disk) : Prop where
  stands : disk.node? (store.directory :: root) = some .directory
  clear : disk.node? (name :: store.directory :: root) = none

/-- The call of the tool for a profile of samples. -/
abbrev mergingCall (pipeline : Pipeline) (root : Location) (samples : List Path) (made : String) :
    Call :=
  ⟨false, Tool.mergeCommand pipeline.toolchain.llvmProfdata samples
    (pathOf (profilePlace root made)) pipeline.settings.mergeArguments, none⟩

/-- The call of the tool for a report. -/
abbrev renderingCall (pipeline : Pipeline) (extra : List String) (root : Location)
    (profile object : Path) (made : String) : Call :=
  pipeline.showCall (pipeline.settings.reportArguments ++ extra) profile object
    (pathOf (treePlace root made))

end Pipeline

open Pipeline

/-- What the tool answers to a call, and what it leaves in a place that was vacant, goes by the
content of the inputs. -/
def Toolbox.GoesBy (tools : Toolbox) (inputs : List Path) (workspace : Workspace) (root : Location)
    (store : Store) (name : String) (request : Call) : Prop :=
  ∀ calls calls' disk other, SameInputs workspace root disk other →
    VacantPlace root store name disk → VacantPlace root store name other →
    (∀ input ∈ inputs, input.Proper ∧ other.content? input = disk.content? input) →
    (tools calls' request other).outcome = (tools calls request disk).outcome ∧
      ∀ location, name :: store.directory :: root <:+ location →
        (tools calls' request other).disk.node? location =
          (tools calls request disk).disk.node? location

/-- Profiles go by the samples, and reports by the profile and the object. -/
structure Toolbox.Reproducible (tools : Toolbox) (pipeline : Pipeline) (root : Location)
    (extra : List String) : Prop where
  merging : ∀ samples name made, Artifact.directoryName name = .ok made →
    tools.GoesBy samples pipeline.workspace root .mergedProfiles (made ++ mergedSuffix)
      (pipeline.mergingCall root samples made)
  rendering : ∀ profile object name made, Artifact.directoryName name = .ok made →
    tools.GoesBy [profile, object] pipeline.workspace root .reports made
      (pipeline.renderingCall extra root profile object made)

namespace Pipeline

/-! ## Worlds side by side -/

/-- The reports that the call is for are the same. -/
def Rendered (pipeline : Pipeline) (extra : List String) (root : Location)
    (same : Location → Prop) (call : Call) : Prop :=
  ∀ profile object made, Path.IsName made →
    call = pipeline.renderingCall extra root profile object made →
    ∀ location, treePlace root made <:+ location → same location

/-- The place is that of a profile, or in the report of a binary. -/
def Product (root location : Location) : Prop :=
  ∃ made, profilePlace root made <:+ location ∨
    made ∉ [reportRecord, reportDocument] ∧ treePlace root made <:+ location

/-- It is no sample. -/
lemma Product.not_sample {location : Location} (h : Product root location) :
    ¬ rawPlace root <:+ location := by
  obtain ⟨made, hprofile | ⟨-, htree⟩⟩ := h
  · exact not_below_other (by decide) ((List.suffix_cons _ _).trans hprofile) List.suffix_rfl
  · exact not_below_other (by decide) ((List.suffix_cons _ _).trans htree) List.suffix_rfl

/-- Two worlds in which the same calls were made since some past, and some profiles and reports are
the same. -/
structure Alongside (pipeline : Pipeline) (extra : List String) (root : Location)
    (past past' : List Call) (same : Location → Prop) (w v : World) : Prop where
  twins : ∃ apart, (∀ location, same location → ¬ apart location) ∧
    Twins pipeline.workspace root apart w.disk v.disk
  product : ∀ location, same location → Product root location
  calls : ∃ calls, w.calls = past ++ calls ∧ v.calls = past' ++ calls ∧
    ∀ call ∈ calls, pipeline.Rendered extra root same call

/-- A message is written in both worlds. -/
lemma together_note_bind {α : Type} {x y : Run α} {Q : α → World → World → Prop}
    {level : LogLevel} {message : String}
    (h : Together Q x y (noted level message w) (noted level message v)) :
    Together Q (note level message >>= fun _ => x) (note level message >>= fun _ => y) w v := by
  obtain ⟨a, w', v', hx, hy, hQ⟩ := h
  exact ⟨a, w', v', ends_note_bind.2 hx, ends_note_bind.2 hy, hQ⟩

/-- A name is made in both worlds. -/
lemma together_directoryName {name : String} (h : Artifact.directoryName name = .ok made) :
    Together (fun found w' v' => found = made ∧ w' = w ∧ v' = v)
      (directoryName name) (directoryName name) w v :=
  ⟨made, w, v, ends_directoryName_ok.2 ⟨h, rfl⟩, ends_directoryName_ok.2 ⟨h, rfl⟩, rfl, rfl, rfl⟩

/-- A call for a profile is for no report. -/
lemma rendered_mergingCall (samples : List Path) :
    pipeline.Rendered extra root same (pipeline.mergingCall root samples made) := by
  intro _ _ _ _ heq
  simp [showCall, Tool.mergeCommand, Tool.showCommand] at heq

/-- Where the merged store stands, the tool is called for a profile and answers. -/
lemma ends_mergeProfiles (pipeline : Pipeline) (tools : Toolbox) (made : String) {group : Group}
    (hsampled : Sampled root group)
    (hmake : Ends (makeDirectories (pathOf (Store.mergedProfiles.directory :: root))) w.disk
      (.ok ()) w.disk) :
    Ends (Tool.mergeProfiles tools pipeline.toolchain.llvmProfdata group.samples
        (pathOf (profilePlace root made)) pipeline.settings.mergeArguments) w
      ((w.response tools (pipeline.mergingCall root group.samples made)).outcome.map
        fun _ => pathOf (profilePlace root made))
      (w.answered tools (pipeline.mergingCall root group.samples made)) := by
  rw [Tool.mergeProfiles, if_neg hsampled.ne_nil, parent_pathOf]
  refine (ends_onDisk_ok.2 ⟨_, hmake, rfl⟩).bind ?_
  have hcall : Ends (call tools (pipeline.mergingCall root group.samples made)) w
      (w.response tools (pipeline.mergingCall root group.samples made)).outcome
      (w.answered tools (pipeline.mergingCall root group.samples made)) := ends_call.2 ⟨rfl, rfl⟩
  cases houtcome : (w.response tools (pipeline.mergingCall root group.samples made)).outcome with
  | ok output =>
    rw [houtcome] at hcall
    exact Ends.bind hcall (ends_pure.2 ⟨rfl, rfl⟩)
  | error fault =>
    rw [houtcome] at hcall
    exact Ends.bind_error hcall

section Attempt

variable {group : Group} {profile : Path} {t : World}

/-- Where the tool succeeds a group is merged. -/
lemma ends_attempt_merged (h : Ends (Tool.mergeProfiles tools pipeline.toolchain.llvmProfdata
      group.samples profile extra) w (.ok profile) t) :
    Ends (pipeline.attempt tools extra group profile) w (.ok (mergedOutcome group profile))
      (noted .info ("Profdata file has been saved to " ++ profile.text) t) :=
  Ends.catch_ok (h.bind (ends_note_bind.2 (ends_pure.2 ⟨rfl, rfl⟩)))

/-- Where it fails, what it left is removed. -/
lemma ends_attempt_failed {failure : Tool.Failure} (h : Ends (Tool.mergeProfiles tools
      pipeline.toolchain.llvmProfdata group.samples profile extra) w (.error (.tool failure)) t)
    (hremoved : Ends (onDisk (removeIfThere profile)) (noted .warning
      ("Failed to merge profiles for " ++ group.name ++ ": " ++ failure.message) t) (.ok ()) v) :
    Ends (pipeline.attempt tools extra group profile) w (.ok (failedMerge group profile failure))
      v :=
  Ends.catch_error (Ends.bind_error h)
    (ends_note_bind.2 (hremoved.bind (ends_pure.2 ⟨rfl, rfl⟩)))

end Attempt

/-- The outcome is that of a group whose profile is the same in both worlds. -/
structure Merged (root : Location) (same : Location → Prop) (group : Group)
    (outcome : MergeOutcome) (made : String) : Prop where
  placeable : Placeable root group.name made
  outcome : IsOutcome group (pathOf (profilePlace root made)) outcome
  same : same (profilePlace root made)

/-- What the outcome of a merge says about its group. -/
lemma Merged.profile {group : Group} {outcome : MergeOutcome}
    (h : Merged root same group outcome made) (hroot : ∀ name ∈ root, Path.IsName name) :
    outcome.name.lossy = group.name ∧
      Path.ofText outcome.profilePath.lossy = pathOf (profilePlace root made) := by
  have hproper : (pathOf (profilePlace root made)).Proper :=
    proper_pathOf (List.forall_mem_cons.2 ⟨isName_profile h.placeable.named,
      List.forall_mem_cons.2 ⟨isName_directory _, hroot⟩⟩)
  have hlossy (text : String) : (LooseText.ofString text).lossy = text :=
    LooseText.lossy_ofString text
  rcases h.outcome with rfl | ⟨failure, rfl⟩
  · exact ⟨hlossy _, (congrArg Path.ofText (hlossy _)).trans (Path.ofText_text hproper)⟩
  · exact ⟨hlossy _, (congrArg Path.ofText (hlossy _)).trans (Path.ofText_text hproper)⟩

namespace Alongside

variable {w' v' : World} {P : Location → Prop}

lemma noted (h : Alongside pipeline extra root past past' same w v) (level : LogLevel)
    (message : String) :
    Alongside pipeline extra root past past' same (noted level message w)
      (noted level message v) :=
  ⟨h.twins, h.product, h.calls⟩

/-- **Where both worlds change to the same, they are the same.** -/
theorem step (h : Alongside pipeline extra root past past' same w v)
    (hleft : Touches pipeline.workspace root P w.disk w'.disk)
    (hright : Touches pipeline.workspace root P v.disk v'.disk)
    (hsame : ∀ location, P location → v'.disk.node? location = w'.disk.node? location)
    (hproduct : ∀ location, P location → Product root location)
    {called : List Call} (hw : w'.calls = w.calls ++ called) (hv : v'.calls = v.calls ++ called)
    (hrendered : ∀ call ∈ called,
      pipeline.Rendered extra root (fun location => same location ∨ P location) call) :
    Alongside pipeline extra root past past' (fun location => same location ∨ P location)
      w' v' where
  twins := by
    obtain ⟨apart, hapart, htwins⟩ := h.twins
    refine ⟨_, fun location hlocation => ?_, htwins.altered hleft hright hsame
      fun location hP hraw => absurd hraw (hproduct location hP).not_sample⟩
    rintro ⟨hthere, hnot⟩
    exact hlocation.elim (fun hsame => hapart location hsame hthere) hnot
  product location hlocation := hlocation.elim (h.product location) (hproduct location)
  calls := by
    obtain ⟨calls, hcalls, hcalls', hsince⟩ := h.calls
    refine ⟨calls ++ called, by rw [hw, hcalls, List.append_assoc],
      by rw [hv, hcalls', List.append_assoc], fun call hcall => ?_⟩
    rcases List.mem_append.1 hcall with hold | hnew
    · exact fun profile object made hmade heq location hplace =>
        Or.inl (hsince call hold profile object made hmade heq location hplace)
    · exact hrendered call hnew

/-- Nothing is called. -/
lemma quiet (h : Alongside pipeline extra root past past' same w v)
    (hleft : Touches pipeline.workspace root P w.disk w'.disk)
    (hright : Touches pipeline.workspace root P v.disk v'.disk)
    (hsame : ∀ location, P location → v'.disk.node? location = w'.disk.node? location)
    (hproduct : ∀ location, P location → Product root location)
    (hw : Quiet w w') (hv : Quiet v v') :
    Alongside pipeline extra root past past' (fun location => same location ∨ P location)
      w' v' := by
  refine h.step hleft hright hsame hproduct (hw.trans (List.append_nil _).symm)
    (hv.trans (List.append_nil _).symm) fun _ hcall => ?_
  cases hcall

/-! ## Stores and places in them -/

/-- **A store is there or is made**, in both worlds. -/
theorem stored (h : Alongside pipeline extra root past past' same w v) (hroomy : Roomy root)
    (hnode : store = .rawProfiles → w.disk.node? (store.directory :: root) = some .directory) :
    Together (fun path w' v' => path = pathOf (store.directory :: root) ∧
        Alongside pipeline extra root past past' same w' v' ∧
        w'.disk.node? (store.directory :: root) = some .directory ∧
        v'.disk.node? (store.directory :: root) = some .directory)
      (pipeline.workspace.store store) (pipeline.workspace.store store) w v := by
  obtain ⟨apart, hapart, htwins⟩ := h.twins
  obtain ⟨disk, hend⟩ : ∃ disk, Ends (pipeline.workspace.store store) w
      (.ok (pathOf (store.directory :: root))) { w with disk } := by
    refine htwins.left.ends_store (hroomy.store store) ?_
    by_cases hraw : store = .rawProfiles
    · exact Or.inr (hnode hraw)
    · exact (htwins.left.expected _).store store hraw rfl
  obtain ⟨v', hend', hv', htwins', hstands, hstands'⟩ := htwins.store hend
  refine ⟨_, _, v', hend, hend', rfl, ⟨⟨_, fun location hsame => ?_, htwins'⟩, h.product, ?_⟩,
    hstands, hstands'⟩
  · exact fun hthere => hapart location hsame hthere.1
  · rw [hv']
    exact h.calls

section Place

variable {name : String} (hproduct : ∀ location, name :: store.directory :: root <:+ location →
    Product root location)
  (h : Alongside pipeline extra root past past' same w v)

include hproduct h

/-- **A place that was vacated in both worlds** is the same. -/
theorem vacated
    (hleft : Touches pipeline.workspace root (name :: store.directory :: root <:+ ·) w.disk w'.disk)
    (hright : Touches pipeline.workspace root (name :: store.directory :: root <:+ ·) v.disk
      v'.disk)
    (hnone : w'.disk.node? (name :: store.directory :: root) = none)
    (hnone' : v'.disk.node? (name :: store.directory :: root) = none)
    (hw : Quiet w w') (hv : Quiet v v') :
    Alongside pipeline extra root past past'
      (fun location => same location ∨ name :: store.directory :: root <:+ location) w' v' :=
  h.quiet hleft hright (fun location hplace => by
      rw [hleft.tidy.tree.none_below hnone hplace, hright.tidy.tree.none_below hnone' hplace])
    hproduct hw hv

/-- **A tool that is called in both worlds** for a vacant place answers the same, and leaves the
same there. -/
theorem answered {inputs : List Path} {request : Call}
    (hgoes : tools.GoesBy inputs pipeline.workspace root store name request)
    (hvacant : VacantPlace root store name w.disk) (hvacant' : VacantPlace root store name v.disk)
    (hinputs : ∀ input ∈ inputs, input.Proper ∧ v.disk.content? input = w.disk.content? input)
    (hleft : Touches pipeline.workspace root (name :: store.directory :: root <:+ ·) w.disk
      (w.answered tools request).disk)
    (hright : Touches pipeline.workspace root (name :: store.directory :: root <:+ ·) v.disk
      (v.answered tools request).disk)
    (hrendered : pipeline.Rendered extra root
      (fun location => same location ∨ name :: store.directory :: root <:+ location) request) :
    (v.response tools request).outcome = (w.response tools request).outcome ∧
      Alongside pipeline extra root past past'
        (fun location => same location ∨ name :: store.directory :: root <:+ location)
        (w.answered tools request) (v.answered tools request) := by
  obtain ⟨apart, -, htwins⟩ := h.twins
  obtain ⟨houtcome, hsame⟩ := hgoes w.calls v.calls w.disk v.disk htwins.sameInputs hvacant
    hvacant' hinputs
  exact ⟨houtcome, h.step hleft hright hsame
    hproduct rfl rfl (by simpa using hrendered)⟩

end Place

/-! ## Merging -/

section Merging

variable {group : Group}

/-- Where there was a profile there is none now. -/
lemma touches_of_removeIfThere {workspace : Workspace} {disk disk' : Disk}
    (h : Settled workspace root disk)
    (hstands : disk.node? (Store.mergedProfiles.directory :: root) = some .directory)
    (hroomy : Roomy root) (hmade : Artifact.directoryName group.name = .ok made)
    (hend : Ends (removeIfThere (pathOf (profilePlace root made))) disk (.ok ()) disk') :
    Touches workspace root (profilePlace root made <:+ ·) disk disk' ∧
      VacantPlace root .mergedProfiles (made ++ mergedSuffix) disk' := by
  obtain ⟨hinside, hnames⟩ := h.profile_place hmade
  have htouches : Touches workspace root (profilePlace root made <:+ ·) disk disk' :=
    Alters.of_tidy (alters_removeIfThere hinside hnames ⟨List.suffix_rfl,
      allows_expected.profile _ _ none hmade (Or.inl rfl)⟩ _ _ _ hend) h.toTidy
  have hfind : disk.find (pathOf (Store.mergedProfiles.directory :: root)) true =
      .ok (Store.mergedProfiles.directory :: root) :=
    (find_at (h.entry_managed (by decide)) true).trans (if_neg (hroomy.store _))
  rw [← child_pathOf _ (isName_profile hmade)] at hend
  exact ⟨htouches, htouches.stands hstands,
    (removeIfThere_entry h.tree hfind hstands (isName_profile hmade) hend).2.2.2.1⟩

/-- A profile is removed in both worlds. -/
lemma removed (h : Alongside pipeline extra root past past' same w v) (hroomy : Roomy root)
    (hplace : Placeable root group.name made)
    (hstands : w.disk.node? (Store.mergedProfiles.directory :: root) = some .directory)
    (hstands' : v.disk.node? (Store.mergedProfiles.directory :: root) = some .directory) :
    Together (fun _ w' v' => Alongside pipeline extra root past past'
          (fun location => same location ∨ profilePlace root made <:+ location) w' v' ∧
        VacantPlace root .mergedProfiles (made ++ mergedSuffix) w'.disk ∧
        VacantPlace root .mergedProfiles (made ++ mergedSuffix) v'.disk)
      (onDisk (removeIfThere (pathOf (profilePlace root made))))
      (onDisk (removeIfThere (pathOf (profilePlace root made)))) w v := by
  obtain ⟨apart, -, htwins⟩ := h.twins
  obtain ⟨disk, hend⟩ := htwins.left.removes hstands hplace
  obtain ⟨disk', hend'⟩ := htwins.right.removes hstands' hplace
  obtain ⟨hleft, hvacant⟩ := touches_of_removeIfThere htwins.left hstands hroomy hplace.named hend
  obtain ⟨hright, hvacant'⟩ := touches_of_removeIfThere htwins.right hstands' hroomy hplace.named
    hend'
  exact ⟨(), _, _, ends_onDisk_ok.2 ⟨disk, hend, rfl⟩, ends_onDisk_ok.2 ⟨disk', hend', rfl⟩,
    h.vacated (fun _ hplace => ⟨made, Or.inl hplace⟩) hleft hright hvacant.clear hvacant'.clear rfl
      rfl, hvacant, hvacant'⟩

/-- **The place of a profile is cleared** in both worlds. -/
theorem prepare (h : Alongside pipeline extra root past past' same w v) (hroomy : Roomy root)
    (hplace : Placeable root group.name made) :
    Together (fun profile w' v' => profile = pathOf (profilePlace root made) ∧
        Alongside pipeline extra root past past'
          (fun location => same location ∨ profilePlace root made <:+ location) w' v' ∧
        VacantPlace root .mergedProfiles (made ++ mergedSuffix) w'.disk ∧
        VacantPlace root .mergedProfiles (made ++ mergedSuffix) v'.disk)
      (pipeline.prepare group) (pipeline.prepare group) w v := by
  have hprofile : Together (fun profile w' v' => profile = pathOf (profilePlace root made) ∧
      Alongside pipeline extra root past past' same w' v' ∧
      w'.disk.node? (Store.mergedProfiles.directory :: root) = some .directory ∧
      v'.disk.node? (Store.mergedProfiles.directory :: root) = some .directory)
      (pipeline.workspace.mergedProfile group.name) (pipeline.workspace.mergedProfile group.name)
      w v := by
    refine (h.stored hroomy (fun hraw => absurd hraw (by decide))).bind ?_
    rintro _ w₁ v₁ ⟨rfl, h₁, hstands⟩
    refine (together_directoryName hplace.named).bind ?_
    rintro _ _ _ ⟨rfl, rfl, rfl⟩
    exact Together.pure ⟨child_pathOf _ (isName_profile hplace.named), h₁, hstands⟩
  refine hprofile.bind ?_
  rintro _ w₁ v₁ ⟨rfl, h₁, hstands, hstands'⟩
  refine together_note_bind ((Alongside.removed (h₁.noted _ _) hroomy hplace hstands hstands').bind
    fun _ w₂ v₂ hremoved => ?_)
  exact Together.pure ⟨rfl, hremoved⟩

section Tools

variable (horderly : tools.Orderly) (hneat : tools.Neat)
  (hmerges : tools.Merges pipeline.toolchain.llvmProfdata pipeline.settings.mergeArguments)
  (hgoes : tools.Reproducible pipeline root extra) (hroomy : Roomy root)
  (hplace : Placeable root group.name made) (hsampled : Sampled root group)

include hneat hmerges hplace

omit horderly hgoes in
/-- The tool fills the place of the profile and touches nothing else. -/
lemma touches_mergingCall {u : World} (h : Settled pipeline.workspace root u.disk) :
    Touches pipeline.workspace root (profilePlace root made <:+ ·) u.disk
      (u.answered tools (pipeline.mergingCall root group.samples made)).disk := by
  obtain ⟨hinside, hnames⟩ := h.profile_place hplace.named
  exact Alters.of_tidy (alters_merging hneat hmerges hinside hnames (fun node hplain =>
    ⟨List.suffix_rfl, allows_expected.profile _ _ node hplace.named hplain⟩) group.samples _ _ _
    (ends_call.2 ⟨rfl, rfl⟩)) h.toTidy

include horderly hgoes hroomy hsampled

/-- **The tool fills the place of the profile**, or the place is cleared again, in both worlds. -/
theorem attempt (h : Alongside pipeline extra root past past' same w v)
    (hvacant : VacantPlace root .mergedProfiles (made ++ mergedSuffix) w.disk)
    (hvacant' : VacantPlace root .mergedProfiles (made ++ mergedSuffix) v.disk) :
    Together (fun outcome w' v' =>
        IsOutcome group (pathOf (profilePlace root made)) outcome ∧
        Alongside pipeline extra root past past'
          (fun location => same location ∨ profilePlace root made <:+ location) w' v')
      (pipeline.attempt tools pipeline.settings.mergeArguments group
        (pathOf (profilePlace root made)))
      (pipeline.attempt tools pipeline.settings.mergeArguments group
        (pathOf (profilePlace root made))) w v := by
  obtain ⟨apart, -, htwins⟩ := h.twins
  have hleft := touches_mergingCall hneat hmerges hplace htwins.left
  have hright := touches_mergingCall hneat hmerges hplace htwins.right
  obtain ⟨houtcome, hcalled⟩ := h.answered (fun _ hplace => ⟨made, Or.inl hplace⟩)
    (hgoes.merging group.samples group.name made hplace.named) hvacant hvacant'
    (fun sample hsample => htwins.content?_sample hsampled hsample) hleft hright
    (rendered_mergingCall _)
  have hend := pipeline.ends_mergeProfiles tools made hsampled
    (htwins.left.ends_makeDirectories hroomy (by decide) hvacant.stands)
  have hend' := pipeline.ends_mergeProfiles tools made hsampled
    (htwins.right.ends_makeDirectories hroomy (by decide) hvacant'.stands)
  rw [houtcome] at hend'
  cases hanswer : (w.response tools (pipeline.mergingCall root group.samples made)).outcome with
  | ok output =>
    rw [hanswer] at hend hend'
    exact ⟨_, _, _, ends_attempt_merged hend, ends_attempt_merged hend',
      Or.inl rfl, hcalled.noted _ _⟩
  | error fault =>
    obtain ⟨failure, rfl⟩ := horderly _ _ _ _ hanswer
    rw [hanswer] at hend hend'
    obtain ⟨_, w₁, v₁, hremove, hremove', hcleared, -⟩ := (hcalled.noted .warning
      ("Failed to merge profiles for " ++ group.name ++ ": " ++ failure.message)).removed hroomy
        hplace (hleft.stands hvacant.stands) (hright.stands hvacant'.stands)
    refine ⟨_, w₁, v₁, ends_attempt_failed hend hremove, ends_attempt_failed hend' hremove',
      Or.inr ⟨failure, rfl⟩, ?_⟩
    simpa only [or_assoc, or_self] using hcleared

/-- **A group is merged alike** in both worlds. -/
theorem mergeGroup (h : Alongside pipeline extra root past past' same w v) :
    Together (fun outcome w' v' =>
        IsOutcome group (pathOf (profilePlace root made)) outcome ∧
        Alongside pipeline extra root past past'
          (fun location => same location ∨ profilePlace root made <:+ location) w' v')
      (pipeline.mergeGroup tools pipeline.settings.mergeArguments group)
      (pipeline.mergeGroup tools pipeline.settings.mergeArguments group) w v := by
  rw [mergeGroup_eq]
  refine (h.prepare hroomy hplace).bind ?_
  rintro _ w₁ v₁ ⟨rfl, h₁, hvacant, hvacant'⟩
  refine (h₁.attempt horderly hneat hmerges hgoes hroomy hplace hsampled hvacant hvacant').mono ?_
  rintro outcome w₂ v₂ ⟨houtcome, h₂⟩
  exact ⟨houtcome, by simpa only [or_assoc, or_self] using h₂⟩

end Tools

/-- **All groups are merged alike**, and then their profiles are the same. -/
theorem mergeGroups (horderly : tools.Orderly) (hneat : tools.Neat)
    (hmerges : tools.Merges pipeline.toolchain.llvmProfdata pipeline.settings.mergeArguments)
    (hgoes : tools.Reproducible pipeline root extra) (hroomy : Roomy root) :
    ∀ {groups : List Group} {same : Location → Prop} {w v : World},
    (∀ group ∈ groups, Sampled root group ∧ ∃ made, Placeable root group.name made) →
    Alongside pipeline extra root past past' same w v →
    Together (fun outcomes w' v' => ∃ same', (∀ location, same location → same' location) ∧
        (∀ group ∈ groups, ∀ made, Artifact.directoryName group.name = .ok made →
          same' (profilePlace root made)) ∧
        (∀ outcome ∈ outcomes, ∃ group made, Merged root same' group outcome made) ∧
        Alongside pipeline extra root past past' same' w' v')
      (groups.mapM (pipeline.mergeGroup tools pipeline.settings.mergeArguments))
      (groups.mapM (pipeline.mergeGroup tools pipeline.settings.mergeArguments)) w v
  | [], same, _, _, _, h => Together.pure ⟨same, fun _ => id, by simp, by simp, h⟩
  | group :: rest, same, w, v, hgroups, h => by
      rw [List.forall_mem_cons] at hgroups
      obtain ⟨⟨hsampled, made, hplace⟩, hrest⟩ := hgroups
      rw [List.mapM_cons]
      refine (h.mergeGroup horderly hneat hmerges hgoes hroomy hplace hsampled).bind ?_
      rintro outcome w₁ v₁ ⟨houtcome, h₁⟩
      refine (mergeGroups horderly hneat hmerges hgoes hroomy hrest h₁).bind ?_
      rintro outcomes w₂ v₂ ⟨same', hmore, hprofiles, hothers, h₂⟩
      have hprofile := hmore _ (Or.inr List.suffix_rfl)
      refine Together.pure ⟨same', fun location hsame => hmore location (Or.inl hsame), ?_, ?_, h₂⟩
      · refine List.forall_mem_cons.2 ⟨fun other hother => ?_, hprofiles⟩
        obtain rfl := Except.ok.inj (hplace.named.symm.trans hother)
        exact hprofile
      · exact List.forall_mem_cons.2 ⟨⟨group, made, hplace, houtcome, hprofile⟩, hothers⟩

end Merging

end Alongside

end Pipeline

end WasmCoverage
