import WasmCoverage.Proofs.Pipeline.Calls
import WasmCoverage.Proofs.Workspace.Resetting

/-!
# Cleaning a workspace

Cleaning leaves a workspace in which there is nothing to report: no samples are found, and a report
run that follows calls no tool (`report_of_empty`).  It returns no outcomes, if there is room for
the paths of its record and of its document; a root may be so deep that its stores can be made and
emptied but these files cannot be written (`not_report_of_deep_root`).

**`clean_exact`** tells what is cleared and what is left alone, for a workspace without links.
-/

namespace WasmCoverage.Pipeline

open WasmCoverage.Disk WasmCoverage.Workspace

variable {pipeline : Pipeline} {tools : Toolbox} {extra : List String} {root : Location}
  {workspace : Workspace} {disk : Disk} {store : Store} {name : String} {directory : Location}
  {w w' : World}

/-! ## Stores that are empty -/

/-- A store that is an empty directory need not be made. -/
lemma ends_makeDirectories_of_empty (h : workspace.Unlinked root disk)
    (hempty : Empty root store disk) :
    Ends (makeDirectories (pathOf (store.directory :: root))) disk (.ok ()) disk := by
  have hmake := acts_makeDirectories _ _ disk (h.entry store)
  rwa [Effect.within, if_neg hempty.short, hempty.stands] at hmake

lemma ends_store_of_empty (h : workspace.Unlinked root w.disk) (hempty : Empty root store w.disk) :
    Ends (workspace.store store) w (.ok (pathOf (store.directory :: root))) w :=
  ends_store_of_made h.bound (ends_makeDirectories_of_empty h hempty)

/-- **Without samples there are no groups.** -/
theorem groups_of_empty (h : workspace.Unlinked root w.disk)
    (hempty : Empty root .rawProfiles w.disk) : Ends workspace.groups w (.ok []) w := by
  have hnames : w.disk.namesIn (Store.rawProfiles.directory :: root) = [] := by
    refine List.eq_nil_iff_forall_not_mem.2 fun name hname => node?_of_mem_namesIn hname ?_
    exact hempty.nothing _ (List.suffix_cons _ _) (List.cons_ne_self _ _)
  have hentries := ends_entriesOf_at (h.entry .rawProfiles).clean
    ((find_at (h.entry .rawProfiles) true).trans (if_neg hempty.short)) hempty.stands
    (by simp [hnames])
  rw [hnames] at hentries
  exact (ends_store_of_empty h hempty).bind
    (ends_onDisk_ok.2 ⟨_, hentries.bind (ends_pure.2 ⟨rfl, rfl⟩), rfl⟩)

/-! ## A report run without samples -/

/-- The paths of the record and of the document of a report run are not too long. -/
def Recordable (root : Location) : Prop :=
  ∀ name ∈ [reportRecord, reportDocument], ¬TooLong (name :: Store.reports.directory :: root)

instance (root : Location) : Decidable (Recordable root) :=
  inferInstanceAs (Decidable (∀ name ∈ [reportRecord, reportDocument], _))

/-- A file is written where nothing is, unless its path is too long. -/
lemma ends_write_new {disk' : Disk} {data : Text.Octets} {r : Except Disk.Error Unit}
    (hentry : disk.Entry name directory) (hnone : disk.node? (name :: directory) = none)
    (hend : Ends (write (pathOf (name :: directory)) data) disk r disk') :
    (r = .ok () ∧ ¬TooLong (name :: directory) ∧
        disk' = disk.put (name :: directory) (.file data false)) ∨
      (∃ error, r = .error error) ∧ TooLong (name :: directory) := by
  obtain ⟨hlong, rfl, -⟩ | ⟨hshort, rfl, rfl⟩ := (acts_write name directory data).ends hentry hend
  · exact .inr ⟨⟨_, rfl⟩, hlong⟩
  · rw [hnone]
    exact .inl ⟨rfl, hshort, rfl⟩

/-- A name is an entry of an empty store, whatever else was written there. -/
lemma entry_of_empty (h : workspace.Unlinked root disk) (hempty : Empty root store disk)
    (hname : Path.IsName name) (hnul : '\x00' ∉ name.toList) :
    disk.Entry name (store.directory :: root) :=
  ⟨h.tree.stands hempty.stands, List.forall_mem_cons.2 ⟨hname, h.isName store⟩,
    hasNul_pathOf_cons.2 ⟨hnul, (h.entry store).clean⟩,
    h.noLink _ ((List.suffix_cons _ _).trans (List.suffix_cons _ _))⟩

/-- The entry of a directory is one still when another one was put there. -/
lemma entry_put {other : String} {node : Node} (hentry : disk.Entry name directory)
    (hne : name ≠ other) : (disk.put (other :: directory) node).Entry name directory := by
  refine ⟨fun place hplace => ?_, hentry.names, hentry.clean, fun target hlink => ?_⟩
  · rw [node?_put_of_ne _ _ fun heq => absurd (heq ▸ hplace).length_le (by simp)]
    exact hentry.stands place hplace
  · rw [node?_put_of_ne _ _ fun heq => hne (List.cons.inj heq).1] at hlink
    exact hentry.noLink target hlink

/-- **The record and the document are written into an empty store**, if there is room for them. -/
theorem writeReport_of_empty {r : Except Fault Unit} {summary : ReportSummary}
    (h : pipeline.workspace.Unlinked root w.disk) (hempty : Empty root .reports w.disk)
    (hend : Ends (pipeline.writeReport summary) w r w') :
    (r = .ok () ∧ Recordable root) ∨ (∃ fault, r = .error fault) ∧ ¬Recordable root := by
  have hnone (name : String) : w.disk.node? (name :: Store.reports.directory :: root) = none :=
    hempty.nothing _ (List.suffix_cons _ _) (List.cons_ne_self _ _)
  have hrecord := entry_of_empty h hempty (by decide : Path.IsName reportRecord) (by decide)
  have hdocument := entry_of_empty h hempty (by decide : Path.IsName reportDocument) (by decide)
  have hstore := ends_store_of_empty h hempty
  obtain ⟨path, t, hother, hrest⟩ | ⟨fault, hother, -⟩ := ends_bind.1 hend
  · obtain ⟨heq, rfl⟩ := hother.unique hstore
    obtain rfl := Except.ok.inj heq
    rw [child_pathOf _ (by decide), child_pathOf _ (by decide)] at hrest
    -- the directory of the record is the store, which is there
    have hfirst {data : Text.Octets} {result : Except Disk.Error Unit} {disk : Disk}
        (hdone : Ends (Ir.writeWithDirectories
          (pathOf (reportRecord :: Store.reports.directory :: root)) data) t.disk result disk) :
        Ends (write (pathOf (reportRecord :: Store.reports.directory :: root)) data) t.disk result
          disk := by
      have hmade := ends_makeDirectories_of_empty h hempty
      rw [Ir.writeWithDirectories, parent_pathOf] at hdone
      obtain ⟨_, d, hmake, hwrite⟩ | ⟨error, hmake, -⟩ := ends_bind.1 hdone
      · obtain ⟨-, rfl⟩ := hmake.unique hmade
        exact hwrite
      · cases (hmake.unique hmade).1
    obtain ⟨_, u, hstep, hlast⟩ | ⟨fault, hstep, rfl⟩ := ends_bind.1 hrest
    · obtain ⟨disk, hdone, rfl⟩ := ends_onDisk_ok.1 hstep
      obtain ⟨-, hshort, rfl⟩ | ⟨⟨_, hfault⟩, -⟩ :=
        ends_write_new hrecord (hnone _) (hfirst hdone)
      · rw [ends_placeIn_bind, ends_get_bind] at hlast
        obtain ⟨result, disk, hwrite, rfl, -⟩ := ends_onDisk.1 hlast
        obtain ⟨rfl, hshort', -⟩ | ⟨⟨error, rfl⟩, hlong⟩ := ends_write_new
          (entry_put hdocument (by decide))
          ((node?_put_of_ne _ _ (by simp [reportDocument, reportRecord])).trans (hnone _)) hwrite
        · exact .inl ⟨rfl, by simpa [Recordable] using ⟨hshort, hshort'⟩⟩
        · exact .inr ⟨⟨_, rfl⟩, fun hroom => hroom _ (by simp) hlong⟩
      · cases hfault
    · obtain ⟨result, disk, hdone, hfault, -⟩ := ends_onDisk.1 hstep
      obtain ⟨rfl, -⟩ | ⟨-, hlong⟩ := ends_write_new hrecord (hnone _) (hfirst hdone)
      · cases hfault
      · exact .inr ⟨⟨fault, rfl⟩, fun hroom => hroom _ (by simp) hlong⟩
  · cases (hother.unique hstore).1

/-- **A report run without samples calls no tool**, and has no outcomes if there is room to record
that. -/
theorem report_of_empty {r : Except Fault ReportSummary}
    (h : pipeline.workspace.Unlinked root w.disk) (hraw : Empty root .rawProfiles w.disk)
    (hreports : Empty root .reports w.disk)
    (hend : Ends (pipeline.report tools extra) w r w') :
    w'.calls = w.calls ∧
      ((r = .ok ⟨[], []⟩ ∧ Recordable root) ∨ (∃ fault, r = .error fault) ∧ ¬Recordable root) := by
  have hgroups := groups_of_empty h hraw
  have hmerges : Ends (pipeline.mergeAll tools []) w (.ok []) w := by
    rw [mergeAll_eq]
    exact Ends.bind (hgroups.bind ((ends_pure.2 ⟨rfl, rfl⟩).bind (ends_pure.2 ⟨rfl, rfl⟩)))
      (ends_pure.2 ⟨rfl, rfl⟩)
  have hbatch : Ends (batch (pipeline.mergeAll tools []) id fun _ =>
      pipeline.reportOne tools (pipeline.settings.reportArguments ++ extra)) w (.ok ([], [])) w :=
    hmerges.bind ((ends_pure.2 ⟨rfl, rfl⟩).bind (ends_pure.2 ⟨rfl, rfl⟩))
  rw [report_eq] at hend
  obtain ⟨done, t, hdone, hlast⟩ | ⟨fault, hdone, -⟩ := ends_bind.1 hend
  · obtain ⟨heq, rfl⟩ := hdone.unique hbatch
    obtain rfl := Except.ok.inj heq
    refine ⟨Makes.calls_eq (makes_conclude _ _ _ _ hlast), ?_⟩
    obtain ⟨_, u, hwrite, -⟩ | ⟨fault, hwrite, rfl⟩ := ends_bind.1 hlast
    · obtain ⟨v, hconcluded, -⟩ :=
        ends_conclude (fun _ => ⟨_, t, ends_store_of_empty h hraw⟩) hwrite
      obtain ⟨rfl, -⟩ := hlast.unique hconcluded
      obtain ⟨-, hroom⟩ | ⟨⟨_, hfault⟩, -⟩ := writeReport_of_empty h hreports hwrite
      · exact .inl ⟨rfl, hroom⟩
      · cases hfault
    · obtain ⟨hok, -⟩ | ⟨-, hroom⟩ := writeReport_of_empty h hreports hwrite
      · cases hok
      · exact .inr ⟨⟨fault, rfl⟩, hroom⟩
  · cases (hdone.unique hbatch).1

/-! ## The main result -/

/-- There is nothing to report: there are no groups of samples, and a report run calls no tool and
has no outcomes, if there is room to record that. -/
structure Spotless (pipeline : Pipeline) (root : Location) (w : World) : Prop where
  groups : Ends pipeline.workspace.groups w (.ok []) w
  calls : ∀ tools extra r t, Ends (pipeline.report tools extra) w r t → t.calls = w.calls
  report : Recordable root → ∀ tools extra, ∃ t,
    Ends (pipeline.report tools extra) w (.ok ⟨[], []⟩) t

/-- There is nothing to report where the stores of samples and of reports are empty. -/
lemma spotless_of_empty (h : pipeline.workspace.Unlinked root w.disk)
    (hraw : Empty root .rawProfiles w.disk) (hreports : Empty root .reports w.disk) :
    Spotless pipeline root w where
  groups := groups_of_empty h hraw
  calls _ _ _ _ hend := (report_of_empty h hraw hreports hend).1
  report hroom tools extra := by
    obtain ⟨r, t, hend⟩ := exists_ends (pipeline.report tools extra) w
    obtain ⟨-, ⟨rfl, -⟩ | ⟨-, hfull⟩⟩ := report_of_empty h hraw hreports hend
    · exact ⟨t, hend⟩
    · exact absurd hroom hfull

/-- Cleaning resets the workspace and says so in the journal. -/
lemma ends_clean {full : Bool} {r : Except Fault Unit}
    (h : pipeline.workspace.bound? = some (pathOf root))
    (hend : Ends (pipeline.clean full) w r w') :
    ∃ t, Ends (pipeline.workspace.reset full) w r t ∧ w'.disk = t.disk := by
  obtain ⟨_, t, hreset, hlast⟩ | ⟨fault, hreset, rfl⟩ := ends_bind.1 hend
  · obtain ⟨path, u, hroot, hnote⟩ | ⟨fault, hroot, -⟩ := ends_bind.1 hlast
    · obtain ⟨-, rfl⟩ := hroot.unique (ends_root h)
      obtain ⟨rfl, rfl⟩ := ends_modify.1 hnote
      exact ⟨u, hreset, rfl⟩
    · cases (hroot.unique (ends_root h)).1
  · exact ⟨w', hreset, rfl⟩

/-- **Cleaning clears exactly its stores**, in a workspace without links.  When it succeeds the four
stores are empty directories, everything else is as it was, and there is nothing to report.  It
fails at the first store whose path is too long, where there is a file, or in which something is
held: then the stores before that one are empty, a part of that one may be gone, and everything else
is as it was.  Cleaning the whole workspace leaves its root as an empty directory, and what is
outside as it was.  A failure is one of the workspace. -/
theorem clean_exact (h : pipeline.workspace.Unlinked root w.disk) :
    (∀ r w', Ends (pipeline.clean false) w r w' →
      (r = .ok () ∧ StoresEmptied pipeline.workspace root Store.cleared w.disk w'.disk ∧
          Spotless pipeline root w') ∨
        ∃ before store behind error middle, Store.cleared = before ++ store :: behind ∧
          r = .error (.workspace (.notReset (pathOf root) error)) ∧
          ¬w.disk.Renewable (store.directory :: root) ∧
          StoresEmptied pipeline.workspace root before w.disk middle ∧
          Unrenewed (store.directory :: root) error middle w'.disk) ∧
    ∀ r w', Ends (pipeline.clean true) w r w' →
      Within (· = root) w.disk w'.disk ∧
        ((r = .ok () ∧ w'.disk.Hollow root) ∨
          ∃ error, r = .error (.workspace (.notReset (pathOf root) error))) := by
  refine ⟨fun r w' hend => ?_, fun r w' hend => ?_⟩
  · obtain ⟨t, hreset, hdisk⟩ := ends_clean h.bound hend
    obtain ⟨disk, rfl, ⟨rfl, hemptied⟩ |
      ⟨before, store, behind, error, middle, hsplit, rfl, hfails, hemptied, hstop⟩⟩ :=
      reset_spec h hreset
    · rw [← show w'.disk = disk from hdisk] at hemptied
      exact .inl ⟨rfl, hemptied, spotless_of_empty hemptied.unlinked
        (hemptied.empty _ (by decide)) (hemptied.empty _ (by decide))⟩
    · rw [← show w'.disk = disk from hdisk] at hstop
      exact .inr ⟨before, store, behind, error, middle, hsplit, rfl, hfails, hemptied, hstop⟩
  · obtain ⟨t, hreset, hdisk⟩ := ends_clean h.bound hend
    obtain ⟨disk, rfl, hreset⟩ := reset_full_spec h hreset
    rwa [show w'.disk = disk from hdisk]

/-! ## Workspaces to clean -/

/-- A workspace with a sample, an object and a report, and with files that are not cleared. -/
def usedWorld : World where
  disk :=
    let file (location : Location) (text : String) : Location × Node :=
      (location, .file (Text.octetsOf text) false)
    { here := []
      entries := [(["w"], .directory), file ["config.yaml", "w"] "c",
        (["raw-profiles", "w"], .directory), (["a", "raw-profiles", "w"], .directory),
        file ["s.profraw", "a", "raw-profiles", "w"] "s",
        (["objects", "w"], .directory), file ["a.o", "objects", "w"] "o",
        (["reports", "w"], .directory), (["a", "reports", "w"], .directory),
        file ["index.html", "a", "reports", "w"] "i",
        (["staging", "w"], .directory), file ["a.o", "staging", "w"] "t"] }
  clock := ⟨2024, 5, 1, 0, 0, 0, 0⟩

lemma unlinked_usedWorld : profilePipeline.workspace.Unlinked ["w"] usedWorld.disk where
  bound := rfl
  names := by decide +kernel
  tree := isTree_of_entries (by decide +kernel)
  stands := rfl
  clean := by decide +kernel
  distinct := by decide +kernel
  noLink place _ := noLink_of_linkCount (by decide +kernel) place

/-- All stores of a workspace can be renewed, so that cleaning succeeds. -/
lemma clean_succeeds (h : pipeline.workspace.Unlinked root w.disk)
    (hcan : ∀ store ∈ Store.cleared, w.disk.Renewable (store.directory :: root)) :
    ∃ w', Ends (pipeline.clean false) w (.ok ()) w' ∧
      StoresEmptied pipeline.workspace root Store.cleared w.disk w'.disk := by
  obtain ⟨r, w', hend⟩ := exists_ends (pipeline.clean false) w
  obtain ⟨t, hreset, hdisk⟩ := ends_clean h.bound hend
  obtain ⟨disk, rfl, ⟨rfl, hemptied⟩ | ⟨before, store, behind, _, _, hsplit, -, hfails, -⟩⟩ :=
    reset_spec h hreset
  · exact ⟨w', hend, (show w'.disk = disk from hdisk) ▸ hemptied⟩
  · exact absurd (hcan store (by simp [hsplit])) hfails

/-- The four stores of that workspace are cleared and nothing else is, and a report run has nothing
left to report. -/
theorem clean_exact_used : profilePipeline.workspace.Unlinked ["w"] usedWorld.disk ∧
    ∃ w', Ends (profilePipeline.clean false) usedWorld (.ok ()) w' ∧
      w'.disk.node? ["a", "raw-profiles", "w"] = none ∧
      w'.disk.node? ["a.o", "objects", "w"] = none ∧
      w'.disk.node? ["merged-profiles", "w"] = some .directory ∧
      w'.disk.node? ["config.yaml", "w"] = some (.file (Text.octetsOf "c") false) ∧
      w'.disk.node? ["a.o", "staging", "w"] = some (.file (Text.octetsOf "t") false) ∧
      ∃ t, Ends (profilePipeline.report Tool.suite []) w' (.ok ⟨[], []⟩) t ∧
        t.calls = w'.calls := by
  have h := unlinked_usedWorld
  have hcan : ∀ store ∈ Store.cleared, usedWorld.disk.Renewable (store.directory :: ["w"]) := by
    unfold Renewable
    decide +kernel
  obtain ⟨w', hend, -⟩ := clean_succeeds h hcan
  obtain ⟨-, hemptied, hspotless⟩ | ⟨_, _, _, _, _, -, hfault, -⟩ := (clean_exact h).1 _ w' hend
  · obtain ⟨t, hreport⟩ := hspotless.report (by decide +kernel) Tool.suite []
    refine ⟨h, w', hend, ?_, ?_, ?_, ?_, ?_, t, hreport, hspotless.calls _ _ _ _ hreport⟩
    · exact (hemptied.empty .rawProfiles (by decide)).nothing _ (List.suffix_cons _ _) (by decide)
    · exact (hemptied.empty .objects (by decide)).nothing _ (List.suffix_cons _ _) (by decide)
    · exact (hemptied.empty .mergedProfiles (by decide)).stands
    · exact hemptied.within.node _ (by rintro _ ⟨store, -, rfl⟩; cases store <;> decide)
    · exact hemptied.within.node _ (by
        rintro _ ⟨store, hstore, rfl⟩
        revert hstore
        cases store <;> decide)
  · cases hfault

/-- A name of which 25 leave room for a store in a path, but not for the record in a store. -/
def deepRootName : String := String.ofList (List.replicate 162 'a')

/-- A root that is so deep. -/
def deepRoot : Location := List.replicate 25 deepRootName

lemma clean_deepRoot : hasNul (pathOf deepRoot) = false :=
  hasNul_pathOf fun n hn => List.eq_of_mem_replicate hn ▸ Path.not_mem_replicate 162 (by decide)

/-- A pipeline that has it for its workspace. -/
def deepPipeline : Pipeline :=
  { profilePipeline with workspace := ⟨some (pathOf deepRoot)⟩ }

/-- A world with nothing but the root. -/
def deepRootWorld : World where
  disk :=
    { here := []
      entries := (List.range 25).map fun n => (List.replicate (n + 1) deepRootName, .directory) }
  clock := ⟨2024, 5, 1, 0, 0, 0, 0⟩

lemma unlinked_deepRootWorld : deepPipeline.workspace.Unlinked deepRoot deepRootWorld.disk where
  bound := rfl
  names n hn := List.eq_of_mem_replicate hn ▸
    Path.isName_replicate (by decide) (by decide) (by decide)
  tree := isTree_of_entries (by decide +kernel)
  stands := by decide +kernel
  clean := clean_deepRoot
  distinct := by decide +kernel
  noLink place _ := noLink_of_linkCount (by decide +kernel) place

/-- **Where the root is so deep, cleaning succeeds and yet the report run after it fails.** -/
theorem not_report_of_deep_root : ¬ ∀ (pipeline : Pipeline) (root : Location) (w w' : World),
    pipeline.workspace.Unlinked root w.disk → Ends (pipeline.clean false) w (.ok ()) w' →
    ∀ tools extra, ∃ t, Ends (pipeline.report tools extra) w' (.ok ⟨[], []⟩) t := by
  intro h
  have hunlinked := unlinked_deepRootWorld
  have hcan : ∀ store ∈ Store.cleared,
      deepRootWorld.disk.Renewable (store.directory :: deepRoot) := by
    unfold Renewable
    decide +kernel
  obtain ⟨w', hclean, hemptied⟩ := clean_succeeds hunlinked hcan
  obtain ⟨t, hreport⟩ := h deepPipeline deepRoot deepRootWorld w' hunlinked hclean Tool.suite []
  obtain ⟨-, ⟨-, hroom⟩ | ⟨⟨_, hfault⟩, -⟩⟩ := report_of_empty hemptied.unlinked
    (hemptied.empty _ (by decide)) (hemptied.empty _ (by decide)) hreport
  · exact absurd hroom (by decide +kernel)
  · cases hfault

end WasmCoverage.Pipeline
