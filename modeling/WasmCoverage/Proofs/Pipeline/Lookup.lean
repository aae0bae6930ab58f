import WasmCoverage.Proofs.Artifact.Key
import WasmCoverage.Proofs.Disk.Removal
import WasmCoverage.Proofs.Pipeline.Steps
import WasmCoverage.Proofs.Tool.Renderer

/-!
# Samples and objects

The samples of a binary are stored under the directory name made of its logical name, and its
object is staged under the logical name itself.  A report run goes from the one to the other by
comparing keys, and all it has of the samples is the directory name.

**`handed_iff_named`** says when that finds the object.  If the directory name is the logical name,
the staged object is found, whatever was merged and reported before (`Staged` is kept by every
step), and it is handed to the report tool.  If it is not, no object with the key of the logical
name is ever handed to the tool for these samples.
-/

namespace WasmCoverage.Pipeline

open WasmCoverage.Disk WasmCoverage.Workspace

variable {pipeline : Pipeline} {tools : Toolbox} {extra : List String} {root : Location}
  {name : String} {merged : MergeOutcome} {object : Path} {w w' : World}

/-! ## Objects in a directory -/

lemma isName_object (hslash : '/' ∉ name.toList) : Path.IsName (name ++ objectSuffix) := by
  refine Path.isName_of_lastChar? (c := 'o') ?_ ?_ (by decide)
  · rw [String.toList_append, List.mem_append, not_or]
    exact ⟨hslash, by decide⟩
  · rw [lastChar?_append _ (by decide)]
    decide

/-- The stem of the file of an object is its name. -/
lemma stemOf_object (hne : name ≠ "") : Path.stemOf (name ++ objectSuffix) = name := by
  have hreverse : (name ++ objectSuffix).toList.reverse = 'o' :: '.' :: name.toList.reverse := by
    simp [objectSuffix]
  have hnil : name.toList ≠ [] := fun h => hne (String.toList_inj.1 h)
  rw [Path.stemOf, Path.cutSuffix, hreverse]
  simp [hnil]

lemma stem_object {directory : Path} (hname : Path.IsName name) :
    (directory.child (name ++ objectSuffix)).stem = name := by
  rw [Path.stem, Path.name_child _ (isName_object hname.not_mem), stemOf_object hname.1]

/-- **What is found for a name has its key.** -/
theorem key_of_objectIn {directory : Path} {disk disk' : Disk} (hname : Path.IsName name)
    (h : Ends (objectIn name directory) disk (.ok (some object)) disk') :
    Artifact.logicalKey object.stem = Artifact.logicalKey name := by
  unfold objectIn at h
  obtain ⟨found, d, -, hrest⟩ := ends_bind_ok.1 h
  split at hrest
  · obtain rfl := Option.some.inj (Except.ok.inj (ends_pure.1 hrest).1)
    rw [stem_object hname]
  · obtain ⟨objects, d', -, hfirst⟩ := ends_bind_ok.1 hrest
    have hfind := List.find?_some (ends_firstFile_ok hfirst).1.symm
    exact of_decide_eq_true hfind

lemma key_of_findObject (hname : Path.IsName name)
    (h : Ends (pipeline.findObject name) w (.ok (some object)) w') :
    Artifact.logicalKey object.stem = Artifact.logicalKey name := by
  obtain ⟨staging, objects, t, -, -, ⟨-, hfound⟩ | ⟨-, hfound⟩⟩ := findObject_spec h
  · exact key_of_objectIn hname hfound
  · exact key_of_objectIn hname hfound

/-! ## Staged objects -/

/-- The path of the staging area. -/
def stagingPath (root : Location) : Path :=
  pathOf (Store.staging.directory :: root)

/-- The object of a name is staged, in a directory that is no link, and the reports go to none
either. -/
structure Staged (workspace : Workspace) (root : Location) (name : String) (disk : Disk) :
    Prop where
  rooted : workspace.Rooted root disk
  staging : disk.node? (Store.staging.directory :: root) = some .directory
  short : ¬ TooLong ((name ++ objectSuffix) :: Store.staging.directory :: root)
  object : ∃ data executable, disk.node? ((name ++ objectSuffix) ::
    Store.staging.directory :: root) = some (.file data executable)
  reports : disk.NoLink (Store.reports.directory :: root)

variable {workspace : Workspace} {disk disk' : Disk}

/-- The object stays staged if what it takes stays. -/
lemma Staged.keep (h : Staged workspace root name disk) (hrooted : workspace.Rooted root disk')
    (hstaging : disk'.node? (Store.staging.directory :: root) =
      disk.node? (Store.staging.directory :: root))
    (hobject : disk'.node? ((name ++ objectSuffix) :: Store.staging.directory :: root) =
      disk.node? ((name ++ objectSuffix) :: Store.staging.directory :: root))
    (hreports : disk'.NoLink (Store.reports.directory :: root)) :
    Staged workspace root name disk' := by
  obtain ⟨data, executable, hdata⟩ := h.object
  exact ⟨hrooted, hstaging.trans h.staging, h.short, ⟨data, executable, hobject.trans hdata⟩,
    hreports⟩

/-- A store may be asked for. -/
lemma Staged.store {store : Store} {path : Path} (h : Staged workspace root name w.disk)
    (hstore : Ends (workspace.store store) w (.ok path) w') :
    Staged workspace root name w'.disk := by
  have hgrows : Grows w.disk w'.disk := respects_store _ _ _ _ hstore
  obtain ⟨data, executable, hdata⟩ := h.object
  refine ⟨(rooted_store h.rooted hstore).2.1, hgrows.node?_eq h.staging, h.short,
    ⟨data, executable, hgrows.node?_eq hdata⟩, fun target heq => ?_⟩
  rcases hgrows.node (Store.reports.directory :: root) with hsame | ⟨-, hdir⟩
  · exact h.reports target (hsame ▸ heq)
  · cases hdir.symm.trans heq

/-! ## Merging keeps objects staged -/

/-- A step begins by asking for the store of profiles. -/
lemma store_mergeGroup {group : Group} {outcome : MergeOutcome}
    (h : Ends (pipeline.mergeGroup tools extra group) w (.ok outcome) w') : ∃ path t,
      Ends (pipeline.workspace.store .mergedProfiles) w (.ok path) t ∧
        Ends (pipeline.mergeGroup tools extra group) t (.ok outcome) w' := by
  obtain ⟨profile, u, hplace, hrest⟩ := ends_bind_ok.1 h
  obtain ⟨path, t, hstore, hname⟩ := ends_bind_ok.1 hplace
  have hagain : Ends (pipeline.workspace.mergedProfile group.name) t (.ok profile) u :=
    (store_again hstore (Keeps.refl _)).bind hname
  exact ⟨path, t, hstore, hagain.bind hrest⟩

/-- **A merge keeps an object staged.**  Of what was there it changes profiles only, and an object
has another suffix. -/
theorem Staged.mergeGroup {group : Group} {outcome : MergeOutcome}
    (h : Staged pipeline.workspace root name w.disk)
    (htools : tools.Merges pipeline.toolchain.llvmProfdata extra)
    (hstep : Ends (pipeline.mergeGroup tools extra group) w (.ok outcome) w') :
    Staged pipeline.workspace root name w'.disk := by
  obtain ⟨path, t, hstore, hstep⟩ := store_mergeGroup hstep
  have ht := h.store hstore
  obtain ⟨-, other, hleads, hstands⟩ := hasDirectory_store hstore
  rw [(rooted_store h.rooted hstore).1] at hleads
  obtain ⟨made, directory, called, -, -, -, -, hprofiles, -, hall⟩ :=
    mergeGroup_spec ht.rooted htools hstep
  obtain ⟨rfl, hallBut⟩ := hall other ⟨ht.rooted, hleads, hstands⟩
  have hsame {entry : String} {above : Location} (hentry : lastChar? entry ≠ some 'a') :
      w'.disk.node? (entry :: above) = t.disk.node? (entry :: above) :=
    hallBut.node _ fun heq => ne_profile hentry made (List.cons.inj heq).1
  refine ht.keep hprofiles.rooted (hsame (by decide)) (hsame ?_) ?_
  · rw [lastChar?_append _ (by decide)]
    decide
  · intro target
    rw [hsame (by decide)]
    exact ht.reports target

/-- **A merge of all samples keeps an object staged.** -/
theorem Staged.mergeAll {outcomes : List MergeOutcome}
    (h : Staged pipeline.workspace root name w.disk)
    (htools : tools.Merges pipeline.toolchain.llvmProfdata
      (pipeline.settings.mergeArguments ++ extra))
    (hall : Ends (pipeline.mergeAll tools extra) w (.ok outcomes) w') :
    Staged pipeline.workspace root name w'.disk := by
  obtain ⟨groups, t, hgroups, hrest⟩ := ends_bind_ok.1 hall
  obtain ⟨path, hstore⟩ := store_of_groups hgroups
  exact hrest.mapM_keeps (I := fun u : World => Staged pipeline.workspace root name u.disk)
    (h.store hstore) fun _ _ _ _ _ hu hstep => hu.mergeGroup htools hstep

/-! ## Making way for a report -/

/-- Remove the report that is in the place of a new one. -/
def vacate (directory : Path) : Run Unit := do
  if ← onDisk (pathExists directory) then onDisk (removeTree directory)

/-- A report is rendered in a place that was vacated. -/
lemma render_eq {profile directory : Path} :
    pipeline.render tools profile object directory extra = (do
      vacate directory
      let _ ← Tool.renderReport tools pipeline.toolchain.llvmCov profile object directory
        extra) := by
  unfold render vacate
  rw [bind_assoc]
  refine bind_congr fun there => ?_
  cases there with
  | true => simp
  | false => simp

lemma ends_render_error {profile directory : Path} {fault : Fault}
    (h : Ends (vacate directory) w (.error fault) w') :
    Ends (pipeline.render tools profile object directory extra) w (.error fault) w' := by
  rw [render_eq]
  exact h.bind_error

lemma ends_attemptReport_error {directory : Path} {fault : Fault} (hitem : fault.isItemFault = true)
    (h : Ends (pipeline.render tools (.ofText merged.profilePath.lossy) object directory extra) w
      (.error fault) w') :
    Ends (pipeline.attemptReport tools extra merged object directory) w
      (.ok (failedReport merged object directory fault))
      (noted .warning ("Failed to generate coverage report for " ++ merged.name.lossy ++ ": " ++
        fault.message) w') := by
  refine Ends.catch_error (Ends.bind_error h) ?_
  rw [if_pos hitem]
  exact ends_note_bind.2 (ends_pure.2 ⟨rfl, rfl⟩)

/-- Nothing is in the place of a report, or a directory was there and has been removed. -/
def Vacated (directory : Path) (before after : Disk) : Prop :=
  (Ends (pathExists directory) before (.ok false) before ∧ after = before) ∨
    ∃ location, before.find directory false = .ok location ∧
      before.node? location = some .directory ∧ after = before.drop location

/-- Nothing was removed from the place of a report, or the removal was stopped. -/
def Occupied (directory : Path) (before after : Disk) : Prop :=
  after = before ∨ ∃ location r, before.Stuck directory location ∧
    Interrupted directory location before r after

/-- **A place is vacated,** or that fails. -/
theorem vacate_spec {directory : Path} {r : Except Fault Unit}
    (h : Ends (vacate directory) w r w') :
    ((∃ fault, r = .error fault) ∧ ∃ disk, Occupied directory w.disk disk ∧
        w' = { w with disk }) ∨
      r = .ok () ∧ ∃ disk, Vacated directory w.disk disk ∧ w' = { w with disk } := by
  have hlooked {r : Except Fault Bool} {t : World}
      (hthere : Ends (onDisk (pathExists directory)) w r t) : t = w := by
    obtain ⟨result, disk, haction, -, rfl⟩ := ends_onDisk.1 hthere
    rw [← respects_leadsTo _ _ _ _ haction]
  rcases ends_bind.1 h with ⟨there, t, hthere, hrest⟩ | ⟨fault, hthere, rfl⟩
  · obtain rfl := hlooked hthere
    cases there with
    | true =>
        rw [if_pos rfl] at hrest
        obtain ⟨result, disk, hremove, hr, rfl⟩ := ends_onDisk.1 hrest
        rcases removeTree_spec hremove with ⟨⟨error, rfl⟩, rfl⟩ |
          ⟨location, hfind, hdir, ⟨rfl, hdrop⟩ | ⟨hstuck, hstopped⟩⟩
        · exact Or.inl ⟨⟨_, hr⟩, _, Or.inl rfl, rfl⟩
        · exact Or.inr ⟨hr, disk, Or.inr ⟨location, hfind, hdir, hdrop⟩, rfl⟩
        · obtain ⟨shown, rfl⟩ := hstopped.exists_error
          exact Or.inl ⟨⟨_, hr⟩, disk, Or.inr ⟨location, _, hstuck, hstopped⟩, rfl⟩
    | false =>
        rw [if_neg (by decide)] at hrest
        obtain ⟨rfl, rfl⟩ := ends_pure.1 hrest
        obtain ⟨disk, haction, hsame⟩ := ends_onDisk_ok.1 hthere
        obtain rfl := respects_leadsTo _ _ _ _ haction
        exact Or.inr ⟨rfl, _, Or.inl ⟨haction, rfl⟩, rfl⟩
  · obtain rfl := hlooked hthere
    exact Or.inl ⟨⟨fault, rfl⟩, _, Or.inl rfl, rfl⟩

/-- A directory that is stuck in the place of a report is not removed. -/
lemma ends_vacate_stuck {directory : Path} {location : Location}
    (hstuck : w.disk.Stuck directory location) : ∃ shown disk,
      Ends (vacate directory) w (.error (.disk (.system (Cause.busy.about shown))))
          { w with disk } ∧
        Interrupted directory location w.disk (.error (.system (Cause.busy.about shown))) disk := by
  obtain ⟨r, disk, hremove⟩ := exists_ends (removeTree directory) w.disk
  have hstopped := hstuck.interrupted hremove
  obtain ⟨shown, rfl⟩ := hstopped.exists_error
  refine ⟨shown, disk, (ends_onDisk_ok.2 ⟨_, hstuck.ends_pathExists, rfl⟩).bind ?_, hstopped⟩
  exact ends_onDisk.2 ⟨_, _, hremove, rfl, rfl⟩

/-- What the report tool is called for. -/
def showCall (pipeline : Pipeline) (extra : List String) (profile object directory : Path) : Call :=
  ⟨false, Tool.showCommand pipeline.toolchain.llvmCov profile object directory extra, none⟩

/-- **A report is rendered** by one call of the tool, unless its place cannot be vacated. -/
theorem render_spec {profile directory : Path} {r : Except Fault Unit}
    (h : Ends (pipeline.render tools profile object directory extra) w r w') :
    (∃ fault disk, r = .error fault ∧ Occupied directory w.disk disk ∧ w' = { w with disk } ∧
        Ends (vacate directory) w (.error fault) w') ∨
      ∃ disk, Vacated directory w.disk disk ∧
        w' = ({ w with disk } : World).answered tools
          (pipeline.showCall extra profile object directory) := by
  rw [render_eq] at h
  rcases ends_bind.1 h with ⟨⟨⟩, t, hvacate, hrest⟩ | ⟨fault, hvacate, rfl⟩
  · rcases vacate_spec hvacate with ⟨⟨fault, hr⟩, -⟩ | ⟨-, disk, hvacated, rfl⟩
    · cases hr
    refine Or.inr ⟨disk, hvacated, ?_⟩
    have hcalled {r : Except Fault Path} {t : World} (hrun : Ends (Tool.renderReport tools
        pipeline.toolchain.llvmCov profile object directory extra) { w with disk } r t) :
        t = ({ w with disk } : World).answered tools
          (pipeline.showCall extra profile object directory) := by
      rcases ends_bind.1 hrun with ⟨output, t', hcall, hlast⟩ | ⟨fault, hcall, -⟩
      · obtain ⟨-, rfl⟩ := ends_pure.1 hlast
        exact (ends_call.1 hcall).2
      · exact (ends_call.1 hcall).2
    rcases ends_bind.1 hrest with ⟨output, t', hrun, hlast⟩ | ⟨fault, hrun, -⟩
    · obtain ⟨-, rfl⟩ := ends_pure.1 hlast
      exact hcalled hrun
    · exact hcalled hrun
  · rcases vacate_spec hvacate with ⟨-, disk, hoccupied, rfl⟩ | ⟨hr, -⟩
    · exact Or.inl ⟨fault, disk, rfl, hoccupied, rfl, hvacate⟩
    · cases hr

/-! ## Reporting keeps objects staged -/

/-- The path of the report store. -/
def reportsPath (root : Location) : Path :=
  pathOf (Store.reports.directory :: root)

/-- The object of a name is staged, and there is a directory for reports. -/
structure Reportable (workspace : Workspace) (root : Location) (name : String) (disk : Disk) :
    Prop where
  staged : Staged workspace root name disk
  stands : disk.node? (Store.reports.directory :: root) = some .directory
  fits : ¬ TooLong (Store.reports.directory :: root)

lemma Staged.stands (h : Staged workspace root name disk) : disk.Stands root :=
  h.rooted.tree.stands h.rooted.stands

/-- The report store leads to the directory for reports. -/
lemma Reportable.leads (h : Reportable workspace root name disk) :
    disk.find (reportsPath root) true = .ok (Store.reports.directory :: root) := by
  refine find_followed ?_ fun target => by simp [h.stands]
  exact (find_entry h.staged.stands (h.staged.rooted.isName .reports)).2 ⟨h.fits, rfl⟩

/-- **Where the report store was asked for** there is a directory for reports. -/
theorem Staged.reportable {path : Path} (h : Staged workspace root name w.disk)
    (hstore : Ends (workspace.store .reports) w (.ok path) w') :
    path = reportsPath root ∧ Reportable workspace root name w'.disk := by
  have hafter := h.store hstore
  obtain ⟨rfl, hrooted, -⟩ := rooted_store h.rooted hstore
  obtain ⟨-, other, hleads, hstands⟩ := hasDirectory_store hstore
  obtain ⟨place, hplace, hthere⟩ := find_unfollowed hleads (by simp [hstands])
  obtain ⟨hfits, rfl⟩ := (find_entry hafter.stands (hrooted.isName .reports)).1 hplace
  rw [find_followed hplace hafter.reports, Except.ok.injEq] at hleads
  exact ⟨rfl, hafter, hleads ▸ hstands, hfits⟩

/-- What stays when a report, or a part of it, is removed. -/
lemma Reportable.removed {made : String} (h : Reportable workspace root name disk)
    (htree : disk'.IsTree)
    (hnode : ∀ place, ¬ made :: Store.reports.directory :: root <:+ place →
      disk'.node? place = disk.node? place) :
    Reportable workspace root name disk' := by
  have hkept {place : Location} (hne : place ≠ made :: Store.reports.directory :: root)
      (hlength : place.length ≤ root.length + 2) : disk'.node? place = disk.node? place :=
    hnode place fun hsuffix => hne (hsuffix.eq_of_length_le (by simpa using hlength)).symm
  have hshort {place : Location} (hlength : place.length ≤ root.length + 1) :
      disk'.node? place = disk.node? place := by
    refine hkept (fun heq => ?_) (Nat.le_succ_of_le hlength)
    rw [heq] at hlength
    simp only [List.length_cons] at hlength
    omega
  have hreports : disk'.node? (Store.reports.directory :: root) =
      disk.node? (Store.reports.directory :: root) :=
    hshort (by simp)
  refine ⟨h.staged.keep ?_ (hshort (by simp)) (hkept ?_ (by simp)) ?_, hreports.trans h.stands,
    h.fits⟩
  · exact h.staged.rooted.of_node? htree (hshort (Nat.le_succ _))
  · intro heq
    have hstore := (List.cons.inj (List.cons.inj heq).2).1
    exact absurd hstore (by decide)
  · intro target
    rw [hreports]
    exact h.staged.reports target

lemma Reportable.drop {made : String} (h : Reportable workspace root name disk) :
    Reportable workspace root name (disk.drop (made :: Store.reports.directory :: root)) :=
  h.removed (h.staged.rooted.tree.drop (List.cons_ne_nil _ _)) fun _ =>
    node?_drop_of_not_suffix disk

/-- **Where a report could not be removed** objects are still staged. -/
theorem Reportable.occupied {made : String} (h : Reportable workspace root name disk)
    (hmade : Path.IsName made) (hoccupied : Occupied ((reportsPath root).child made) disk disk') :
    Reportable workspace root name disk' := by
  rcases hoccupied with rfl | ⟨location, r, hstuck, hstopped⟩
  · exact h
  · obtain rfl := eq_of_find_child h.leads h.stands hmade (by simp) hstuck.leads.2
    exact h.removed (hstopped.isTree h.staged.rooted.tree) fun place hplace =>
      (hstopped.node? place).resolve_right fun hgone => hplace hgone.1

/-- **When a place for a report was vacated** objects are still staged, and nothing is there. -/
theorem Reportable.vacated {made : String} (h : Reportable workspace root name disk)
    (hmade : Path.IsName made) (hclean : hasNul ((reportsPath root).child made) = false)
    (hvacated : Vacated ((reportsPath root).child made) disk disk') :
    Reportable workspace root name disk' ∧
      ∀ place, disk'.find ((reportsPath root).child made) true = .ok place →
        disk'.node? place = none := by
  rcases hvacated with ⟨habsent, rfl⟩ | ⟨location, hfind, hdirectory, rfl⟩
  · refine ⟨h, fun place hplace => ?_⟩
    by_contra hthere
    obtain ⟨node, hnode⟩ := Option.ne_none_iff_exists'.1 hthere
    have hexists : Ends (pathExists ((reportsPath root).child made)) disk' (.ok true) disk' :=
      ends_leadsTo_true.2 ⟨⟨hclean, node, look_eq_ok.2 ⟨place, hplace, hnode⟩, rfl⟩, rfl⟩
    cases (hexists.unique habsent).1
  · obtain rfl := eq_of_find_child h.leads h.stands hmade (by simp) hfind
    have hnone := node?_drop_of_suffix disk
      (List.cons_ne_nil made (Store.reports.directory :: root)) (List.suffix_refl _)
    refine ⟨h.drop, fun place hplace => ?_⟩
    rw [eq_of_find_child h.drop.leads h.drop.stands hmade (fun _ target => by simp [hnone]) hplace,
      hnone]

/-- **A call of the report tool keeps an object staged.**  It writes below a place where nothing
was. -/
theorem Reportable.answered {made : String} {profile : Path}
    (h : Reportable pipeline.workspace root name w.disk) (hmade : Path.IsName made)
    (htools : tools.Renders pipeline.toolchain.llvmCov extra)
    (hclear : ∀ place, w.disk.find ((reportsPath root).child made) true = .ok place →
      w.disk.node? place = none) :
    Staged pipeline.workspace root name (w.answered tools
      (pipeline.showCall extra profile object ((reportsPath root).child made))).disk := by
  have hrooted := h.staged.rooted
  obtain ⟨htree, hwithin⟩ := htools w.calls profile object (reportsPath root) made w.disk
    (hrooted.proper_store .reports) hmade hrooted.tree ⟨_, h.leads, h.stands⟩
  have hsame {place : Location} (hthere : w.disk.node? place ≠ none) :=
    hwithin.node?_eq hrooted.tree hclear hthere
  obtain ⟨data, executable, hdata⟩ := h.staged.object
  refine h.staged.keep ?_ (hsame (by simp [h.staged.staging])) (hsame (by simp [hdata])) ?_
  · exact hrooted.of_node? htree (hsame (by simp [hrooted.stands]))
  · intro target hlink
    have hdirectory := (hsame (by simp [h.stands])).trans h.stands
    cases hdirectory.symm.trans hlink

/-- **Rendering keeps an object staged**, however it ends. -/
theorem Reportable.render {made : String} {profile : Path} {r : Except Fault Unit}
    (h : Reportable pipeline.workspace root name w.disk) (hmade : Path.IsName made)
    (hclean : hasNul ((reportsPath root).child made) = false)
    (htools : tools.Renders pipeline.toolchain.llvmCov extra)
    (hrender : Ends (pipeline.render tools profile object ((reportsPath root).child made) extra) w
      r w') : Staged pipeline.workspace root name w'.disk := by
  rcases render_spec hrender with ⟨fault, disk, -, hoccupied, rfl, -⟩ | ⟨disk, hvacated, rfl⟩
  · exact (h.occupied hmade hoccupied).staged
  · obtain ⟨hready, hclear⟩ := h.vacated hmade hclean hvacated
    exact Reportable.answered (w := { w with disk }) hready hmade htools hclear

lemma Staged.reportObject
    (h : Staged pipeline.workspace root name w.disk)
    {outcome : ReportOutcome} (htools : tools.Renders pipeline.toolchain.llvmCov extra)
    (hstep : Ends (pipeline.reportObject tools extra merged object) w (.ok outcome) w') :
    Staged pipeline.workspace root name w'.disk := by
  rw [reportObject_eq] at hstep
  obtain ⟨directory, t, hdirectory, hattempt⟩ := ends_bind_ok.1 hstep
  have hclean := hasNul_reportDirectory hdirectory
  obtain ⟨path, made, hstore, hmade, rfl⟩ := reportDirectory_spec hdirectory
  obtain ⟨rfl, hready⟩ := h.reportable hstore
  have hname := Artifact.isName_directoryName hmade
  rcases attemptReport_spec hattempt with ⟨u, hrender, -, hdisk, -⟩ | ⟨fault, u, hrender, hdisk, -⟩
  · rw [hdisk]
    exact hready.render hname hclean htools hrender
  · rw [hdisk]
    exact hready.render hname hclean htools hrender

lemma Staged.findObject {other : String} {found : Option Path}
    (h : Staged pipeline.workspace root name w.disk)
    (hfound : Ends (pipeline.findObject other) w (.ok found) w') :
    Staged pipeline.workspace root name w'.disk := by
  obtain ⟨staging, objects, t, hstaging, hobjects, -⟩ := findObject_spec hfound
  exact (h.store hstaging).store hobjects

/-- **A step of a report run keeps an object staged**, whichever binary it is about. -/
theorem Staged.reportOne {outcome : ReportOutcome}
    (h : Staged pipeline.workspace root name w.disk)
    (htools : tools.Renders pipeline.toolchain.llvmCov extra)
    (hstep : Ends (pipeline.reportOne tools extra merged) w (.ok outcome) w') :
    Staged pipeline.workspace root name w'.disk := by
  unfold Pipeline.reportOne at hstep
  split at hstep
  · rcases reportMerged_spec hstep with ⟨fault, -, -, hr⟩ | ⟨hfound, -⟩ |
      ⟨object, t, hfound, -, hrest⟩
    · cases hr
    · have hsought := h.findObject hfound
      exact hsought
    · have hsought := h.findObject hfound
      exact Staged.reportObject (w := t) hsought htools hrest
  · obtain ⟨-, rfl⟩ := ends_pure.1 hstep
    exact h

/-! ## Finding a staged object -/

/-- **A staged object is found by its name.** -/
theorem Staged.found {found : Option Path} (h : Staged pipeline.workspace root name w.disk)
    (hname : Artifact.directoryName name = .ok name)
    (hfound : Ends (pipeline.findObject name) w (.ok found) w') :
    found = some ((stagingPath root).child (name ++ objectSuffix)) := by
  have hafter := h.findObject hfound
  obtain ⟨staging, objects, t, hstaging, hobjects, hsought⟩ := findObject_spec hfound
  obtain ⟨rfl, -, -⟩ := rooted_store h.rooted hstaging
  have hentry := isName_object (Artifact.isName_directoryName hname).not_mem
  have hobject : Ends (objectIn name (stagingPath root)) w'.disk
      (.ok (some ((stagingPath root).child (name ++ objectSuffix)))) w'.disk := by
    have hclean : hasNul ((stagingPath root).child (name ++ objectSuffix)) = false := by
      refine hasNul_child hentry (hasDirectory_store hstaging).1 ?_
      rw [String.toList_append, List.mem_append, not_or]
      exact ⟨Artifact.not_mem_directoryName hname (by decide), by decide⟩
    obtain ⟨data, executable, hdata⟩ := hafter.object
    have hnames : ∀ n ∈ (name ++ objectSuffix) :: Store.staging.directory :: root, Path.IsName n :=
      List.forall_mem_cons.2 ⟨hentry, hafter.rooted.isName .staging⟩
    have hplace := (find_entry (hafter.rooted.tree.stands hafter.staging) hnames).2
      ⟨hafter.short, rfl⟩
    rw [← child_pathOf _ hentry] at hplace
    have hleads := find_followed hplace fun target => by simp [hdata]
    refine Ends.bind (ends_isFile_true.2 ⟨⟨hclean, data, content?_eq_some.2
      ⟨_, executable, hleads, hdata⟩⟩, rfl⟩) ?_
    rw [if_pos rfl]
    exact ends_pure.2 ⟨rfl, rfl⟩
  rcases hsought with ⟨-, hfirst⟩ | ⟨hfirst, -⟩
  · exact Except.ok.inj (hfirst.unique hobject).1
  · cases (hfirst.unique hobject).1

/-! ## Handing an object to the tool -/

/-- For these samples the report tool was called with the object, and no other tool was. -/
def Hands (pipeline : Pipeline) (extra : List String) (merged : MergeOutcome) (object : Path)
    (before after : World) : Prop :=
  ∃ directory, after.calls = before.calls ++
    [pipeline.showCall extra (.ofText merged.profilePath.lossy) object directory]

/-- Find the object of a binary, and make way for its report. -/
def makeWay (pipeline : Pipeline) (name : String) : Run Unit := do
  let _ ← pipeline.findObject name
  vacate (← pipeline.workspace.reportDirectory name)

lemma onlyDisk_vacate (directory : Path) : OnlyDisk (vacate directory) := by
  unfold vacate
  refine (OnlyDisk.onDisk _).bind fun there => ?_
  split
  · exact OnlyDisk.onDisk _
  · exact OnlyDisk.pure _

lemma onlyDisk_makeWay (name : String) : OnlyDisk (pipeline.makeWay name) :=
  (onlyDisk_findObject _).bind fun _ => (onlyDisk_reportDirectory _).bind fun _ =>
    onlyDisk_vacate _

/-- **An object that was found is handed to the tool,** unless the place of the report cannot be
vacated. -/
theorem hands_of_reportObject {r : Except Fault ReportOutcome}
    (h : Ends (pipeline.reportObject tools extra merged object) w r w') :
    (∀ outcome, r = .ok outcome →
      outcome.state ≠ .objectMissing ∧ outcome.objectPath = some object.text) ∧
    (pipeline.Hands extra merged object w w' ∨ Quiet w w' ∧ ∃ fault t, Ends (do
      vacate (← pipeline.workspace.reportDirectory merged.name.lossy)) w (.error fault) t) := by
  rw [reportObject_eq] at h
  rcases ends_bind.1 h with ⟨directory, t, hplace, hattempt⟩ | ⟨fault, hplace, rfl⟩
  · have hquiet : t.calls = w.calls := (onlyDisk_reportDirectory _).quiet _ _ _ hplace
    have hrendered {result : Except Fault Unit} {u : World} (hcalls : w'.calls = u.calls)
        (hrender : Ends (pipeline.render tools (.ofText merged.profilePath.lossy) object directory
          extra) t result u) :
        pipeline.Hands extra merged object w w' ∨ Quiet w w' ∧ ∃ fault t, Ends (do
          vacate (← pipeline.workspace.reportDirectory merged.name.lossy)) w (.error fault) t := by
      rcases render_spec hrender with ⟨fault, disk, -, -, rfl, hvacate⟩ | ⟨disk, -, rfl⟩
      · exact Or.inr ⟨hcalls.trans hquiet, fault, _, hplace.bind hvacate⟩
      · refine Or.inl ⟨directory, hcalls.trans ?_⟩
        rw [World.answered, hquiet]
    rcases attemptReport_spec hattempt with ⟨u, hrender, rfl, -, hcalls⟩ |
      ⟨fault, u, hrender, -, hcalls, ⟨-, rfl⟩ | ⟨-, rfl⟩⟩
    · refine ⟨fun outcome ho => ?_, hrendered hcalls hrender⟩
      obtain rfl := Except.ok.inj ho
      exact ⟨by simp [reportedOutcome], rfl⟩
    · refine ⟨fun outcome ho => ?_, hrendered hcalls hrender⟩
      obtain rfl := Except.ok.inj ho
      exact ⟨by simp [failedReport], rfl⟩
    · exact ⟨fun _ ho => (nomatch ho), hrendered hcalls hrender⟩
  · exact ⟨fun _ ho => (nomatch ho),
      Or.inr ⟨(onlyDisk_reportDirectory _).quiet _ _ _ hplace, fault, w', hplace.bind_error⟩⟩

/-- **Samples with the name of a staged object find it.** -/
theorem Staged.hands {r : Except Fault ReportOutcome}
    (h : Staged pipeline.workspace root name w.disk)
    (hname : Artifact.directoryName name = .ok name) (hmerged : merged.name.lossy = name)
    (hstep : Ends (pipeline.reportMerged tools extra merged) w r w') :
    (∀ outcome, r = .ok outcome → outcome.state ≠ .objectMissing ∧
      outcome.objectPath = some ((stagingPath root).child (name ++ objectSuffix)).text) ∧
    (pipeline.Hands extra merged ((stagingPath root).child (name ++ objectSuffix)) w w' ∨
      Quiet w w' ∧ ∃ fault t, Ends (pipeline.makeWay name) w (.error fault) t) := by
  rcases reportMerged_spec hstep with ⟨fault, hfound, hquiet, rfl⟩ | ⟨hfound, -⟩ |
    ⟨object, t, hfound, hquiet, hrest⟩
  · rw [hmerged] at hfound
    exact ⟨fun _ ho => (nomatch ho), Or.inr ⟨hquiet, fault, _, hfound.bind_error⟩⟩
  · rw [hmerged] at hfound
    cases h.found hname hfound
  · rw [hmerged] at hfound
    obtain rfl := Option.some.inj (h.found hname hfound)
    obtain ⟨hstate, hhands⟩ := hands_of_reportObject hrest
    refine ⟨hstate, hhands.imp (fun ⟨directory, hcalls⟩ => ⟨directory, ?_⟩)
      fun ⟨hquiet', fault, u, hfault⟩ => ⟨hquiet'.trans hquiet, fault, ?_⟩⟩
    · rw [hcalls, hquiet]
    · rw [hmerged] at hfault
      have honly : OnlyDisk (do vacate (← pipeline.workspace.reportDirectory name)) :=
        (onlyDisk_reportDirectory _).bind fun _ => onlyDisk_vacate _
      exact ⟨_, hfound.bind (honly _ _ _ hfault _ rfl)⟩

/-- **No object but one with the key of their directory name** is handed to the tool for samples. -/
theorem hands_key {r : Except Fault ReportOutcome} (hname : Path.IsName merged.name.lossy)
    (hstep : Ends (pipeline.reportMerged tools extra merged) w r w') :
    Quiet w w' ∨ ∃ object, pipeline.Hands extra merged object w w' ∧
      Artifact.logicalKey object.stem = Artifact.logicalKey merged.name.lossy := by
  rcases reportMerged_spec hstep with ⟨fault, -, hquiet, -⟩ | ⟨-, hquiet, -⟩ |
    ⟨object, t, hfound, hquiet, hrest⟩
  · exact Or.inl hquiet
  · exact Or.inl hquiet
  · rcases (hands_of_reportObject hrest).2 with ⟨directory, hcalls⟩ | ⟨hquiet', -⟩
    · exact Or.inr ⟨object, ⟨directory, by rw [hcalls, hquiet]⟩, key_of_findObject hname hfound⟩
    · exact Or.inl (hquiet'.trans hquiet)

/-! ## The main result -/

/-- **Samples find the staged object of their logical name** exactly if the directory name made of
it is that name.  Whatever was merged and reported before, the object is then handed to the report
tool, unless something is in the way of a store or of the report; otherwise no object with the key
of the logical name ever is. -/
theorem finds_staged_object {data : Text.Octets} {sample : Path} {past stored t u v : World}
    {before after : List MergeOutcome} {earlier : List ReportOutcome}
    {r : Except Fault ReportOutcome}
    (hsample : Ends (pipeline.workspace.storeSample name data) past (.ok sample) stored)
    (hstaged : Staged pipeline.workspace root name w.disk)
    (hmerges : tools.Merges pipeline.toolchain.llvmProfdata pipeline.settings.mergeArguments)
    (hrenders : tools.Renders pipeline.toolchain.llvmCov
      (pipeline.settings.reportArguments ++ extra))
    (hall : Ends (pipeline.mergeAll tools []) w (.ok (before ++ merged :: after)) t)
    (hbefore : Ends (before.mapM (pipeline.reportOne tools
      (pipeline.settings.reportArguments ++ extra))) t (.ok earlier) u)
    (hname : merged.name = .ofString sample.parent.name) (hmerged : merged.status = .merged)
    (hstep : Ends (pipeline.reportOne tools (pipeline.settings.reportArguments ++ extra) merged) u
      r v) :
    (sample.parent.name = name →
      (∀ outcome, r = .ok outcome → outcome.state ≠ .objectMissing ∧
        outcome.objectPath = some ((stagingPath root).child (name ++ objectSuffix)).text) ∧
      (pipeline.Hands (pipeline.settings.reportArguments ++ extra) merged
          ((stagingPath root).child (name ++ objectSuffix)) u v ∨
        Quiet u v ∧ ∃ fault t, Ends (pipeline.makeWay name) u (.error fault) t)) ∧
    (sample.parent.name ≠ name → Quiet u v ∨ ∃ object,
      pipeline.Hands (pipeline.settings.reportArguments ++ extra) merged object u v ∧
        Artifact.logicalKey object.stem ≠ Artifact.logicalKey name) := by
  have hmade := directoryName_of_storeSample hsample
  have hlossy : merged.name.lossy = sample.parent.name := by
    rw [hname, LooseText.lossy_ofString]
  have hstep' : Ends (pipeline.reportMerged tools (pipeline.settings.reportArguments ++ extra)
      merged) u r v := by
    simpa only [Pipeline.reportOne, hmerged] using hstep
  refine ⟨fun heq => ?_, fun hne => ?_⟩
  · have ht : Staged pipeline.workspace root name t.disk :=
      hstaged.mergeAll (by rwa [List.append_nil]) hall
    have hu : Staged pipeline.workspace root name u.disk :=
      hbefore.mapM_keeps (I := fun s : World => Staged pipeline.workspace root name s.disk) ht
        fun _ _ _ _ _ hs hone => hs.reportOne hrenders hone
    rw [heq] at hmade hlossy
    exact hu.hands hmade hlossy hstep'
  · refine (hands_key ?_ hstep').imp_right fun ⟨object, hhands, hkey⟩ => ⟨object, hhands, ?_⟩
    · rw [hlossy]
      exact Artifact.isName_directoryName hmade
    · rw [hkey, hlossy, Ne, Artifact.logicalKey_directoryName_iff hmade]
      exact hne

/-! ## Names that find their object, and one that does not -/

section Names

/-- A workspace at `/w` in which an object is staged. -/
def objectWorld (name : String) : World where
  disk :=
    { here := []
      entries := [(["w"], .directory), (["staging", "w"], .directory),
        ([name ++ objectSuffix, "staging", "w"], .file (Text.octetsOf "o") false),
        (["raw-profiles", "w"], .directory), (["merged-profiles", "w"], .directory),
        (["objects", "w"], .directory), (["reports", "w"], .directory)] }
  clock := ⟨2024, 5, 1, 0, 0, 0, 0⟩

/-- The name of the first sample that is stored in it. -/
def firstSample : String := "20240501-000000-00000000000000000000000000000001.profraw"

/-- The first sample, in a directory. -/
def samplePath (made : String) : Path :=
  pathOf [firstSample, made, "raw-profiles", "w"]

/-- The workspace with the sample in a directory. -/
def sampleWorld (name made : String) : World :=
  { objectWorld name with
    disk := ((objectWorld name).disk.put [made, "raw-profiles", "w"] .directory).put
      [firstSample, made, "raw-profiles", "w"] (.file (Text.octetsOf "x") false)
    issued := 1 }

/-- The workspace after the sample was merged. -/
def profileWorld (name made : String) : World :=
  { sampleWorld name made with
    disk := (sampleWorld name made).disk.put [made ++ mergedSuffix, "merged-profiles", "w"]
      (.file (Text.octetsOf "x") false) }

/-- Logical names, and the directory names made of them. -/
def logicalNames : List (String × String) := [("a", "a"), ("a__b", "a_b")]

lemma ends_storeSample_objectWorld : ∀ p ∈ logicalNames,
    Ends (profilePipeline.workspace.storeSample p.1 (Text.octetsOf "x")) (objectWorld p.1)
      (.ok (samplePath p.2)) (sampleWorld p.1 p.2) := by
  decide +kernel

lemma staged_sampleWorld : ∀ p ∈ logicalNames,
    Staged profilePipeline.workspace ["w"] p.1 (sampleWorld p.1 p.2).disk := by
  intro p hp
  have hobject : (sampleWorld p.1 p.2).disk.node? [p.1 ++ objectSuffix, "staging", "w"] =
      some (.file (Text.octetsOf "o") false) := by
    revert p
    decide +kernel
  refine ⟨⟨rfl, by decide +kernel, isTree_of_entries ?_, ?_⟩, ?_, ?_, ⟨_, _, hobject⟩,
    noLink_of_linkCount ?_ _⟩
  all_goals clear hobject
  all_goals revert p
  all_goals decide +kernel

/-- The group of the sample. -/
def sampleGroup (made : String) : Group :=
  ⟨made, [samplePath made]⟩

lemma ends_groups_sampleWorld (p : String × String) (hp : p ∈ logicalNames) :
    Ends profilePipeline.workspace.groups (sampleWorld p.1 p.2) (.ok [sampleGroup p.2])
      (sampleWorld p.1 p.2) := by
  have hstore : ∀ p ∈ logicalNames, Ends (profilePipeline.workspace.store .rawProfiles)
      (sampleWorld p.1 p.2) (.ok (pathOf ["raw-profiles", "w"])) (sampleWorld p.1 p.2) := by
    decide +kernel
  have hlists : ∀ p ∈ logicalNames,
      Lists (sampleWorld p.1 p.2).disk ["raw-profiles", "w"] [p.2] := by
    decide +kernel
  have hsamples : ∀ p ∈ logicalNames,
      Lists (sampleWorld p.1 p.2).disk [p.2, "raw-profiles", "w"] [firstSample] ∧
      hasNul (samplePath p.2) = false ∧
      (sampleWorld p.1 p.2).disk.content? (samplePath p.2) ≠ none := by
    decide +kernel
  have hsuffix : hasSuffix rawSuffix firstSample = true := by decide +kernel
  refine ends_groups_of_lists (hstore p hp) (hlists p hp) hsuffix fun name hname => ?_
  obtain rfl := List.mem_singleton.1 hname
  exact hsamples p hp

lemma merging_sampleWorld : ∀ p ∈ logicalNames,
    (Tool.suite.merging "llvm-profdata-17" [] [] [samplePath p.2] (storedProfile p.2)
      (sampleWorld p.1 p.2).disk).outcome = .ok "" ∧
    (Tool.suite.merging "llvm-profdata-17" [] [] [samplePath p.2] (storedProfile p.2)
      (sampleWorld p.1 p.2).disk).disk = (profileWorld p.1 p.2).disk := by
  have hinputs (sample : Path) : Tool.mergeInputs [sample] = [sample.text] := by
    simp [Tool.mergeInputs]
  simp only [Toolbox.merging, Tool.mergeCommand, hinputs]
  decide +kernel

lemma ends_mergeAll_sampleWorld (p : String × String) (hp : p ∈ logicalNames) : ∃ after,
    Ends (profilePipeline.mergeAll Tool.suite []) (sampleWorld p.1 p.2)
      (.ok [mergedOutcome (sampleGroup p.2) (storedProfile p.2)]) after ∧
      after.disk = (profileWorld p.1 p.2).disk := by
  have hplace : ∀ p ∈ logicalNames, Ends (profilePipeline.workspace.mergedProfile p.2)
      (sampleWorld p.1 p.2) (.ok (storedProfile p.2)) (sampleWorld p.1 p.2) := by
    decide +kernel
  have hclear : ∀ p ∈ logicalNames, Ends (removeIfThere (storedProfile p.2))
      (sampleWorld p.1 p.2).disk (.ok ()) (sampleWorld p.1 p.2).disk := by
    decide +kernel
  have hdirectory : ∀ p ∈ logicalNames, Ends (makeDirectories (storedProfile p.2).parent)
      (sampleWorld p.1 p.2).disk (.ok ()) (sampleWorld p.1 p.2).disk := by
    decide +kernel
  obtain ⟨after, hgroup, hdisk⟩ : ∃ after, Ends (profilePipeline.mergeGroup Tool.suite []
      (sampleGroup p.2)) (sampleWorld p.1 p.2)
      (.ok (mergedOutcome (sampleGroup p.2) (storedProfile p.2))) after ∧
        after.disk = (profileWorld p.1 p.2).disk := by
    obtain ⟨houtput, hanswer⟩ := merging_sampleWorld p hp
    rw [← hanswer]
    exact ends_mergeGroup_merged (List.cons_ne_nil _ _) (hplace p hp) (hclear p hp)
      (hdirectory p hp) houtput
  exact ⟨after, ends_mergeAll_single (ends_groups_sampleWorld p hp) hgroup, hdisk⟩

lemma ends_findObject_missing : Ends (profilePipeline.findObject "a_b") (profileWorld "a__b" "a_b")
    (.ok none) (profileWorld "a__b" "a_b") := by
  decide +kernel

/-- The object of `a` is staged and the report tool is called with it, for the sample of `a`. -/
theorem finds_staged_object_a :
    Ends (profilePipeline.workspace.storeSample "a" (Text.octetsOf "x")) (objectWorld "a")
      (.ok (samplePath "a")) (sampleWorld "a" "a") ∧
    Staged profilePipeline.workspace ["w"] "a" (sampleWorld "a" "a").disk ∧ ∃ t r v,
      Ends (profilePipeline.mergeAll Tool.suite []) (sampleWorld "a" "a")
        (.ok [mergedOutcome (sampleGroup "a") (storedProfile "a")]) t ∧
      Ends (profilePipeline.reportOne Tool.suite []
        (mergedOutcome (sampleGroup "a") (storedProfile "a"))) t r v ∧
      profilePipeline.Hands [] (mergedOutcome (sampleGroup "a") (storedProfile "a"))
        ((stagingPath ["w"]).child ("a" ++ objectSuffix)) t v := by
  have ha : ("a", "a") ∈ logicalNames := by decide
  have hsample := ends_storeSample_objectWorld _ ha
  have hstaged := staged_sampleWorld _ ha
  obtain ⟨t, hall, hdisk⟩ := ends_mergeAll_sampleWorld _ ha
  obtain ⟨r, v, hstep⟩ := exists_ends (profilePipeline.reportOne Tool.suite
    (profilePipeline.settings.reportArguments ++ [])
    (mergedOutcome (sampleGroup "a") (storedProfile "a"))) t
  have hbefore : Ends ([].mapM (profilePipeline.reportOne Tool.suite
      (profilePipeline.settings.reportArguments ++ []))) t (.ok []) t :=
    ends_pure.2 ⟨rfl, rfl⟩
  obtain ⟨-, hhands⟩ := (finds_staged_object hsample hstaged (Tool.merges_suite _)
    (Tool.renders_suite _) hall hbefore rfl rfl hstep).1 (by decide +kernel)
  have hway : Ends (profilePipeline.makeWay "a") (profileWorld "a" "a") (.ok ())
      (profileWorld "a" "a") := by
    decide +kernel
  refine ⟨hsample, hstaged, t, r, v, hall, hstep, hhands.resolve_right ?_⟩
  rintro ⟨-, fault, u, hfault⟩
  cases (hfault.unique (onlyDisk_makeWay _ _ _ _ hway t hdisk)).1

/-- **A name with two underscores next to each other loses its object.**  A sample of `a__b` is
stored in the directory `a_b`, and the staged object has another key than that. -/
theorem not_finds_staged_object :
    Path.stemOf "a__b.wasm" = "a__b" ∧
    Tool.suite.Merges "llvm-profdata-17" [] ∧ Tool.suite.Renders "llvm-cov-17" [] ∧
    Ends (profilePipeline.workspace.storeSample "a__b" (Text.octetsOf "x")) (objectWorld "a__b")
      (.ok (samplePath "a_b")) (sampleWorld "a__b" "a_b") ∧
    Staged profilePipeline.workspace ["w"] "a__b" (sampleWorld "a__b" "a_b").disk ∧ ∃ merged t v,
      Ends (profilePipeline.mergeAll Tool.suite []) (sampleWorld "a__b" "a_b") (.ok [merged]) t ∧
      merged.name = .ofString "a_b" ∧ merged.status = .merged ∧
      Ends (profilePipeline.reportOne Tool.suite [] merged) t (.ok (missingReport merged)) v ∧
      (missingReport merged).state = .objectMissing ∧ Quiet t v := by
  have hab : ("a__b", "a_b") ∈ logicalNames := by decide
  have hsample := ends_storeSample_objectWorld _ hab
  have hstaged := staged_sampleWorld _ hab
  obtain ⟨t, hall, hdisk⟩ := ends_mergeAll_sampleWorld _ hab
  refine ⟨by decide, Tool.merges_suite _, Tool.renders_suite _, hsample, hstaged,
    mergedOutcome (sampleGroup "a_b") (storedProfile "a_b"), t, ?_⟩
  obtain ⟨r, v, hstep⟩ := exists_ends (profilePipeline.reportMerged Tool.suite []
    (mergedOutcome (sampleGroup "a_b") (storedProfile "a_b"))) t
  have hfound := onlyDisk_findObject _ _ _ _ ends_findObject_missing t hdisk
  rcases reportMerged_spec hstep with ⟨fault, hother, -⟩ | ⟨-, hquiet, rfl⟩ |
    ⟨object, u, hother, -⟩
  · cases (hother.unique hfound).1
  · exact ⟨v, hall, rfl, rfl, hstep, rfl, hquiet⟩
  · cases (hother.unique hfound).1

end Names

end WasmCoverage.Pipeline
