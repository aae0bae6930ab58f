import WasmCoverage.Proofs.Pipeline.Lookup
import WasmCoverage.Proofs.Workspace.Tidy

/-!
# What merging and reporting touch

In a tidy workspace, merging a group touches the merged store and one file in it
(`alters_mergeGroup`), and a report touches the stores that are asked for and one tree in the
report store (`alters_reportOne`), whether the step succeeds or not.  The record and the document
of a run are two files beside the reports (`alters_writeReport`).
-/

namespace WasmCoverage.Pipeline

open WasmCoverage.Disk WasmCoverage.Workspace

variable {pipeline : Pipeline} {tools : Toolbox} {extra : List String} {root : Location}
  {standing : Store → Prop} {Touched : Location → Option Node → Prop} {w w' : World}

/-- What may be touched by every step of a run: the directories of the stores, and the profiles of
groups, whatever their names. -/
structure Allows (root : Location) (Touched : Location → Option Node → Prop) : Prop where
  store : ∀ store : Store, store ≠ .rawProfiles →
    Touched (store.directory :: root) (some .directory)
  profile : ∀ name made node, Artifact.directoryName name = .ok made → Plain node →
    Touched ((made ++ mergedSuffix) :: Store.mergedProfiles.directory :: root) node

/-- The relation that the steps respect. -/
abbrev AltersBy (pipeline : Pipeline) (root : Location) (standing : Store → Prop)
    (Touched : Location → Option Node → Prop) : World → World → Prop :=
  OnDisk (Alters pipeline.workspace root standing Touched)

lemma proper_pathOf {location : Location} (h : ∀ name ∈ location, Path.IsName name) :
    (pathOf location).Proper :=
  fun name hname => h name (List.mem_reverse.1 hname)

/-! ## The tools -/

section Tools

variable {location : Location} {workspace : Workspace}

/-- A profile tool touches the place of the profile. -/
lemma alters_merging {tool : String} (hneat : tools.Neat) (htools : tools.Merges tool extra)
    (hinside : Inside root location) (hnames : ∀ name ∈ location, Path.IsName name)
    (htouched : ∀ node, Plain node → Touched location node) (samples : List Path) :
    Respects (OnDisk (Alters workspace root standing Touched))
      (listen tools (Tool.mergeCommand tool samples (pathOf location) extra)) := by
  intro w r w' h htidy hstanding
  obtain ⟨-, rfl⟩ := ends_call.1 h
  exact htidy.altered_refiles hinside
    (htools w.calls samples (pathOf location) w.disk (proper_pathOf hnames))
    (fun place hfind =>
      ⟨htidy.eq_of_find hinside.managed hnames hfind, htidy.tree.directory_around hfind⟩)
    (hneat.distinct _ _ _ htidy.distinct) htouched

/-- A report tool touches the place of the report and what is below it. -/
lemma alters_showing {tool made : String} {profile object : Path} (hneat : tools.Neat)
    (htools : tools.Renders tool extra) (hroot : ∀ name ∈ root, Path.IsName name)
    (hmade : Path.IsName made) (hstands : standing .reports)
    (hshort : ¬ TooLong (Store.reports.directory :: root))
    (htouched : ∀ place node, made :: Store.reports.directory :: root <:+ place →
      Touched place node) :
    Respects (OnDisk (Alters workspace root standing Touched))
      (listen tools (Tool.showCommand tool profile object
        (pathOf (made :: Store.reports.directory :: root)) extra)) := by
  intro w r w' h htidy hstanding
  obtain ⟨-, rfl⟩ := ends_call.1 h
  have hnames : ∀ name ∈ made :: Store.reports.directory :: root, Path.IsName name :=
    List.forall_mem_cons.2 ⟨hmade, List.forall_mem_cons.2 ⟨isName_directory _, hroot⟩⟩
  have hinside : Inside root (made :: Store.reports.directory :: root) :=
    inside_store made (by decide)
  have hdirectory : w.disk.HasDirectory (pathOf (Store.reports.directory :: root)) :=
    ⟨_, (find_at (htidy.entry_managed (by decide)) true).trans (if_neg hshort),
      hstanding _ hstands⟩
  have hrenders := htools w.calls profile object (pathOf (Store.reports.directory :: root)) made
    w.disk (htidy.proper_store .reports) hmade htidy.tree hdirectory
  rw [child_pathOf _ hmade] at hrenders
  refine htidy.altered_within hinside hrenders.1 hrenders.2
    (fun place hfind => htidy.eq_of_find hinside.managed hnames hfind)
    (hneat.distinct _ _ _ htidy.distinct) (fun target hlink => ?_) htouched
  rcases hneat.links _ _ _ _ _ _ hlink with hold | hnone
  · exact htidy.noLink _ hinside.managed target hold
  · cases hnone.symm.trans (hstanding _ hstands)

end Tools

/-! ## Merging -/

/-- The place of a profile that was asked for. -/
lemma profile_of_mergedProfile {workspace : Workspace} {name : String} {profile : Path}
    (hbound : workspace.bound? = some (pathOf root))
    (h : Ends (workspace.mergedProfile name) w (.ok profile) w') : ∃ made,
      Artifact.directoryName name = .ok made ∧
        profile = pathOf ((made ++ mergedSuffix) :: Store.mergedProfiles.directory :: root) := by
  obtain ⟨path, made, hstore, hmade, rfl⟩ := mergedProfile_spec h
  obtain rfl := path_of_store hbound hstore
  exact ⟨made, hmade, child_pathOf _ (isName_profile hmade)⟩

section Merging

variable (hallows : Allows root Touched) (hneat : tools.Neat)
  (htools : tools.Merges pipeline.toolchain.llvmProfdata extra)

include hallows

lemma alters_mergedProfile {workspace : Workspace} (name : String) :
    Respects (OnDisk (Alters workspace root standing Touched)) (workspace.mergedProfile name) :=
  (alters_managed_store (by decide) (hallows.store _ (by decide))).bind fun _ =>
    (respects_directoryName name).bind fun _ => Respects.pure _

section Group

variable (hbound : pipeline.workspace.bound? = some (pathOf root))
  (hroot : ∀ name ∈ root, Path.IsName name)

include hbound hroot

/-- The place of a profile. -/
lemma place_of_mergedProfile {name : String} {profile : Path}
    (h : Ends (pipeline.workspace.mergedProfile name) w (.ok profile) w') :
    ∃ location, profile = pathOf location ∧ profile.parent =
        pathOf (Store.mergedProfiles.directory :: root) ∧ Inside root location ∧
      (∀ name ∈ location, Path.IsName name) ∧ ∀ node, Plain node → Touched location node := by
  obtain ⟨made, hmade, rfl⟩ := profile_of_mergedProfile hbound h
  refine ⟨_, rfl, parent_pathOf _ _, inside_store _ (by decide), ?_,
    fun node => hallows.profile _ _ node hmade⟩
  exact List.forall_mem_cons.2 ⟨Artifact.isName_of_directoryName (c := 'a') hmade (by decide)
    (by decide) (by decide), List.forall_mem_cons.2 ⟨isName_directory _, hroot⟩⟩

end Group

include hneat htools

/-- The tool is called for the profile after the merged store was made. -/
lemma alters_mergeProfiles {location : Location} (hinside : Inside root location)
    (hparent : (pathOf location).parent = pathOf (Store.mergedProfiles.directory :: root))
    (hnames : ∀ name ∈ location, Path.IsName name)
    (htouched : ∀ node, Plain node → Touched location node) (samples : List Path) :
    Respects (AltersBy pipeline root standing Touched) (Tool.mergeProfiles tools
      pipeline.toolchain.llvmProfdata samples (pathOf location) extra) := by
  have hcall : Respects (AltersBy pipeline root standing Touched) (do
      onDisk (makeDirectories (pathOf location).parent)
      let _ ← listen tools (Tool.mergeCommand pipeline.toolchain.llvmProfdata samples
        (pathOf location) extra)
      return pathOf location) := by
    rw [hparent]
    exact (alters_makeDirectories (by simp) fun _ => hallows.store _ (by decide)).onDisk.bind
      fun _ => (alters_merging hneat htools hinside hnames htouched _).bind fun _ =>
        Respects.pure _
  unfold Tool.mergeProfiles
  split
  · exact (Respects.throw _).bind fun _ => hcall
  · exact hcall

/-- **Merging a group** touches the merged store and the place of the profile. -/
theorem alters_mergeGroup (group : Group) :
    Respects (AltersBy pipeline root standing Touched) (pipeline.mergeGroup tools extra group) := by
  intro w r w' h htidy hstanding
  rw [mergeGroup_eq] at h
  refine Respects.bind_of_ends (R := AltersBy pipeline root standing Touched) ?_
    (fun profile s t hprepare => ?_) _ _ _ h htidy hstanding
  · refine (alters_mergedProfile hallows group.name).bind_of_ends fun profile s t hprofile => ?_
    obtain ⟨location, rfl, -, hinside, hnames, htouched⟩ :=
      place_of_mergedProfile hallows htidy.bound htidy.names hprofile
    exact (respects_note _ _).bind fun _ =>
      (alters_removeIfThere hinside hnames (htouched none (Or.inl rfl))).onDisk.bind fun _ =>
        Respects.pure _
  · obtain ⟨found, u, hprofile, hrest⟩ := ends_bind_ok.1 hprepare
    obtain ⟨location, rfl, hparent, hinside, hnames, htouched⟩ :=
      place_of_mergedProfile hallows htidy.bound htidy.names hprofile
    obtain rfl : profile = pathOf location := by
      rw [ends_note_bind] at hrest
      obtain ⟨⟨⟩, v, -, hlast⟩ := ends_bind_ok.1 hrest
      exact Except.ok.inj (ends_pure.1 hlast).1
    refine Respects.tryCatch ((alters_mergeProfiles hallows hneat htools hinside hparent hnames
      htouched _).bind fun _ => (respects_note _ _).bind fun _ => Respects.pure _) fun fault => ?_
    split
    · exact (respects_note _ _).bind fun _ =>
        (alters_removeIfThere hinside hnames (htouched none (Or.inl rfl))).onDisk.bind
          fun _ => Respects.pure _
    · exact Respects.throw _

end Merging

/-! ## Reporting -/

lemma alters_vacate {location : Location} (hinside : Inside root location)
    (hnames : ∀ name ∈ location, Path.IsName name)
    (htouched : ∀ place, location <:+ place → Touched place none) :
    Respects (AltersBy pipeline root standing Touched) (vacate (pathOf location)) := by
  refine ((respects_leadsTo _).mono Alters.of_eq).onDisk.bind fun found => ?_
  split
  · exact (alters_removeTree hinside hnames htouched).onDisk
  · exact Respects.pure _

/-- The place of a report that was asked for, where the report store then stands. -/
lemma place_of_reportDirectory {name : String} {directory : Path}
    (htidy : pipeline.workspace.Tidy root w.disk)
    (h : Ends (pipeline.workspace.reportDirectory name) w (.ok directory) w') : ∃ made,
      Artifact.directoryName name = .ok made ∧
        directory = pathOf (made :: Store.reports.directory :: root) ∧
        w'.disk.node? (Store.reports.directory :: root) = some .directory ∧
        ¬ TooLong (Store.reports.directory :: root) := by
  obtain ⟨path, made, hstore, hmade, rfl⟩ := reportDirectory_spec h
  obtain ⟨rfl, hstands, hshort⟩ := htidy.stands_of_store
    (htidy.noLink _ (managed_store (by decide))) hstore
  exact ⟨made, hmade, child_pathOf _ (Artifact.isName_directoryName hmade), hstands, hshort⟩

section Reporting

variable (hallows : Allows root Touched)

include hallows

lemma alters_findObject (name : String) :
    Respects (AltersBy pipeline root standing Touched) (pipeline.findObject name) := by
  have hread (directory : Path) : Respects (AltersBy pipeline root standing Touched)
      (onDisk (objectIn name directory)) :=
    ((respects_objectIn name directory).mono Alters.of_eq).onDisk
  refine (alters_managed_store (by decide) (hallows.store _ (by decide))).bind fun staging =>
    (alters_managed_store (by decide) (hallows.store _ (by decide))).bind fun objects =>
      (hread staging).bind fun found => ?_
  split
  · exact Respects.pure _
  · exact hread objects

variable {merged : MergeOutcome} (hneat : tools.Neat)
  (htools : tools.Renders pipeline.toolchain.llvmCov extra)
  (htree : ∀ made, Artifact.directoryName merged.name.lossy = .ok made → ∀ place node,
    made :: Store.reports.directory :: root <:+ place → Touched place node)

include hneat htools htree

lemma alters_reportObject (object : Path) :
    Respects (AltersBy pipeline root standing Touched)
      (pipeline.reportObject tools extra merged object) := by
  intro w r w' h htidy hstanding
  rw [reportObject_eq] at h
  have hasked : Respects (AltersBy pipeline root standing Touched)
      (pipeline.workspace.reportDirectory merged.name.lossy) :=
    (alters_managed_store (by decide) (hallows.store _ (by decide))).bind fun _ =>
      (respects_directoryName _).bind fun _ => Respects.pure _
  rcases ends_bind.1 h with ⟨directory, t, hdirectory, hrest⟩ | ⟨fault, hdirectory, -⟩
  · have hfirst := hasked _ _ _ hdirectory htidy hstanding
    obtain ⟨made, hmade, rfl, hstands, hshort⟩ := place_of_reportDirectory htidy hdirectory
    have hname := Artifact.isName_directoryName hmade
    have hnames : ∀ name ∈ made :: Store.reports.directory :: root, Path.IsName name :=
      List.forall_mem_cons.2 ⟨hname, htidy.isName .reports⟩
    -- from here on the report store stands
    have hrender : Respects (AltersBy pipeline root (fun store => standing store ∨ store = .reports)
        Touched) (pipeline.attemptReport tools extra merged object
          (pathOf (made :: Store.reports.directory :: root))) := by
      refine Respects.tryCatch (Respects.bind ?_ fun _ => (respects_note _ _).bind fun _ =>
        Respects.pure _) fun fault => ?_
      · rw [render_eq]
        refine (alters_vacate (inside_store made (by decide)) hnames
          fun place => htree made hmade place none).bind fun _ => Respects.bind ?_ fun _ =>
            Respects.pure _
        exact (alters_showing hneat htools htidy.names hname (Or.inr rfl) hshort
          (htree made hmade)).bind fun _ => Respects.pure _
      · split
        · exact (respects_note _ _).bind fun _ => Respects.pure _
        · exact Respects.throw _
    refine hfirst.trans (hrender _ _ _ hrest hfirst.tidy ?_)
    rintro store (hold | rfl)
    · exact hfirst.stands (hstanding store hold)
    · exact hstands
  · exact hasked _ _ _ hdirectory htidy hstanding

/-- **Reporting a binary** touches the stores and the tree of the report. -/
theorem alters_reportOne :
    Respects (AltersBy pipeline root standing Touched) (pipeline.reportOne tools extra merged) := by
  unfold reportOne
  split
  · refine (respects_note _ _).bind fun _ => (alters_findObject hallows _).bind fun found => ?_
    split
    · exact alters_reportObject hallows hneat htools htree _
    · exact (alters_managed_store (by decide) (hallows.store _ (by decide))).bind fun _ =>
        (alters_managed_store (by decide) (hallows.store _ (by decide))).bind fun _ =>
          (respects_note _ _).bind fun _ => Respects.pure _
  · exact Respects.pure _

end Reporting

/-! ## The record and the document -/

/-- **The record and the document** of a run are written beside the reports. -/
theorem alters_writeReport (hstore : Touched (Store.reports.directory :: root) (some .directory))
    (hrecord : ∀ name ∈ [reportRecord, reportDocument], ∀ node, Plain node →
      Touched (name :: Store.reports.directory :: root) node) (summary : ReportSummary) :
    Respects (AltersBy pipeline root standing Touched) (pipeline.writeReport summary) := by
  intro w r w' h htidy hstanding
  have hdocument (name : String) (hname : name ∈ [reportRecord, reportDocument])
      (data : Text.Octets) : Respects (Alters pipeline.workspace root standing Touched)
        (write (pathOf (name :: Store.reports.directory :: root)) data) := by
    refine alters_write (inside_store name (by decide)) ?_
      (fun data executable => hrecord name hname _ (Or.inr ⟨_, _, rfl⟩)) data
    refine List.forall_mem_cons.2 ⟨?_, htidy.isName .reports⟩
    revert name
    decide
  refine Respects.bind_of_ends (R := AltersBy pipeline root standing Touched)
    (alters_managed_store (by decide) hstore) (fun reports s t hasked => ?_)
    _ _ _ h htidy hstanding
  obtain rfl := path_of_store htidy.bound hasked
  rw [child_pathOf _ (by decide), child_pathOf _ (by decide), Ir.writeWithDirectories,
    parent_pathOf]
  refine Respects.bind ?_ fun _ => ?_
  · exact ((alters_makeDirectories (by simp) fun _ => hstore).bind fun _ =>
      hdocument _ (by simp) _).onDisk
  · intro w r w' h
    rw [ends_placeIn_bind, ends_get_bind] at h
    exact (hdocument _ (by simp) _).onDisk _ _ _ h

end WasmCoverage.Pipeline
