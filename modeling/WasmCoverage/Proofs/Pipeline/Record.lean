import WasmCoverage.Proofs.Disk.Limits
import WasmCoverage.Proofs.Pipeline.Settled
import WasmCoverage.Proofs.Summary.RoundTrip

/-!
# The record of a report run

A report run keeps its summary in a record.  In a settled workspace, whatever the tools answer and
whatever the samples are called, as long as every group is placeable, nothing stops the run before
the record is written: **`report_concludes`**.  The run then ends with the summary or with the
verdict that all reports failed, and in both cases the summary is loaded back from the record.

A group that no directory name can be made of is not placeable: it stops the run before anything
is recorded (`report_stops`).  So does a group with a name so long that its profile cannot be named
for it, though its samples could be stored (`not_report_of_long_name`).
-/

namespace WasmCoverage.Pipeline

open WasmCoverage.Disk WasmCoverage.Workspace WasmCoverage.Payload

variable {pipeline : Pipeline} {tools : Toolbox} {extra : List String} {root : Location}
  {w w' started : World} {groups : List Group}

/-! ## Outcomes that fit a record -/

lemma isAbsolute_pathOf (location : Location) : (pathOf location).isAbsolute = true := rfl

/-- The outcome of a group fits, if its samples can be counted. -/
lemma fit_of_isOutcome {group : Group} {profile : Path} {outcome : MergeOutcome}
    (hprofile : profile.isAbsolute = true) (hcount : IsShort group.samples.length)
    (h : IsOutcome group profile outcome) : outcome.Fit := by
  have hrules : ∀ rule ∈ (mergedOutcome group profile).rules, rule = none := by
    simp [MergeOutcome.rules, mergedOutcome, natural, absolute_text _ hprofile]
  rcases h with rfl | ⟨failure, rfl⟩
  · exact ⟨hrules, by simp [MergeOutcome.texts, mergedOutcome, LooseText.whole_ofString], hcount⟩
  · exact ⟨hrules, by
      simp [MergeOutcome.texts, failedMerge, mergedOutcome, LooseText.whole_ofString], hcount⟩

/-- An object is found under a path from the root. -/
lemma isAbsolute_of_objectIn {name : String} {directory object : Path} {disk disk' : Disk}
    (hdirectory : directory.isAbsolute = true)
    (h : Ends (objectIn name directory) disk (.ok (some object)) disk') :
    object.isAbsolute = true := by
  obtain ⟨found, d, -, hrest⟩ := ends_bind_ok.1 h
  split at hrest
  · obtain rfl := Option.some.inj (Except.ok.inj (ends_pure.1 hrest).1)
    exact Path.isAbsolute_child hdirectory _
  · obtain ⟨entries, d', hentries, hfirst⟩ := ends_bind_ok.1 hrest
    obtain ⟨entry, rfl⟩ := mem_entriesOf hentries (List.mem_of_mem_filter (mem_of_firstFile hfirst))
    exact Path.isAbsolute_child hdirectory _

section Root

variable {base : Path} (hbound : pipeline.workspace.bound? = some base)
  (hbase : base.isAbsolute = true)

include hbound hbase

lemma isAbsolute_of_store {store : Store} {path : Path}
    (h : Ends (pipeline.workspace.store store) w (.ok path) w') : path.isAbsolute = true := by
  obtain ⟨other, disk, hother, rfl, -⟩ := store_spec h
  obtain rfl := Option.some.inj (hbound.symm.trans hother)
  exact Path.isAbsolute_child hbase _

lemma isAbsolute_of_findObject {name : String} {object : Path}
    (h : Ends (pipeline.findObject name) w (.ok (some object)) w') : object.isAbsolute = true := by
  obtain ⟨staging, objects, t, hstaging, hobjects, ⟨-, hfound⟩ | ⟨-, hfound⟩⟩ := findObject_spec h
  · exact isAbsolute_of_objectIn (isAbsolute_of_store hbound hbase hstaging) hfound
  · exact isAbsolute_of_objectIn (isAbsolute_of_store hbound hbase hobjects) hfound

lemma isAbsolute_of_reportDirectory {name : String} {directory : Path}
    (h : Ends (pipeline.workspace.reportDirectory name) w (.ok directory) w') :
    directory.isAbsolute = true := by
  obtain ⟨reports, made, hstore, -, rfl⟩ := reportDirectory_spec h
  exact Path.isAbsolute_child (isAbsolute_of_store hbound hbase hstore) _

/-- **The outcome of a report fits**, if that of its merge does. -/
theorem fit_of_reportOne {merged : MergeOutcome} (hmerged : merged.Fit) {outcome : ReportOutcome}
    (h : Ends (pipeline.reportOne tools extra merged) w (.ok outcome) w') : outcome.Fit := by
  obtain ⟨hname, hprofile, hmessage⟩ : merged.name.Whole ∧ merged.profilePath.Whole ∧
      merged.message.Whole := by
    simpa [MergeOutcome.texts] using hmerged.whole
  have habsolute : absolute "profile_path" merged.profilePath = none :=
    hmerged.rules _ (by simp [MergeOutcome.rules])
  unfold reportOne at h
  split at h
  · rcases reportMerged_spec h with ⟨_, -, -, hr⟩ | ⟨-, -, hr⟩ | ⟨object, t, hfound, -, hreport⟩
    · cases hr
    · obtain rfl := Except.ok.inj hr
      exact ⟨by simp [ReportOutcome.rules, missingReport, absolute?, habsolute],
        by simp [ReportOutcome.texts, missingReport, hname, hprofile, LooseText.whole_ofString]⟩
    · rw [reportObject_eq] at hreport
      obtain ⟨directory, t', hdirectory, hattempt⟩ := ends_bind_ok.1 hreport
      have hobject := absolute_text "object_path" (isAbsolute_of_findObject hbound hbase hfound)
      have htree := absolute_text "report_dir"
        (isAbsolute_of_reportDirectory hbound hbase hdirectory)
      rcases attemptReport_spec hattempt with ⟨_, -, hr, -⟩ | ⟨fault, _, -, -, -, ⟨-, hr⟩ | ⟨-, hr⟩⟩
      · obtain rfl := Except.ok.inj hr
        exact ⟨by simp [ReportOutcome.rules, reportedOutcome, absolute?, habsolute, hobject, htree],
          by simp [ReportOutcome.texts, reportedOutcome, hname, hprofile,
            LooseText.whole_ofString]⟩
      · obtain rfl := Except.ok.inj hr
        exact ⟨by simp [ReportOutcome.rules, failedReport, reportedOutcome, absolute?, habsolute,
            hobject],
          by simp [ReportOutcome.texts, failedReport, reportedOutcome, hname, hprofile,
            LooseText.whole_ofString]⟩
      · cases hr
  · obtain rfl := Except.ok.inj (ends_pure.1 h).1
    exact ⟨by simp [ReportOutcome.rules, absolute?],
      by simp [ReportOutcome.texts, hname, hmessage]⟩

end Root

/-! ## The steps of a run -/

/-- Looking for groups makes the raw store, if it is not there, and nothing else. -/
lemma disk_of_groups {workspace : Workspace} (h : workspace.Rooted root w.disk)
    (hgroups : Ends workspace.groups w (.ok groups) started) : started.disk = w.disk ∨
      started.disk = w.disk.put (Store.rawProfiles.directory :: root) .directory := by
  obtain ⟨samples, hstore⟩ := store_of_groups hgroups
  obtain ⟨-, rfl⟩ := disk_of_store h hstore
  split
  · exact Or.inr rfl
  · exact Or.inl rfl

lemma node?_put_store (disk : Disk) (root place : Location) (store : Store) :
    (disk.put (store.directory :: root) .directory).node? place = disk.node? place ∨
      place = store.directory :: root ∧
        (disk.put (store.directory :: root) .directory).node? place = some .directory := by
  rw [node?_put (List.cons_ne_nil _ _)]
  split
  · next hplace => exact Or.inr ⟨hplace, rfl⟩
  · exact Or.inl rfl

/-- Looking for groups keeps a workspace settled, whatever is in the raw store. -/
lemma settled_groups {workspace : Workspace} (h : Settled workspace root w.disk)
    (hgroups : Ends workspace.groups w (.ok groups) started) :
    Settled workspace root started.disk := by
  have hrooted := rooted_groups h.toRooted hgroups
  rcases disk_of_groups h.toRooted hgroups with heq | heq
  · exact heq ▸ h
  · rw [heq] at hrooted ⊢
    refine ⟨⟨hrooted, h.clean, fun place hplace target hlink => ?_, h.distinct.put _ _⟩,
      fun place => ?_⟩
    · rcases node?_put_store w.disk root place .rawProfiles with hsame | ⟨-, hdir⟩
      · exact h.noLink place hplace target (hsame ▸ hlink)
      · cases hdir.symm.trans hlink
    · rcases node?_put_store w.disk root place .rawProfiles with hsame | ⟨rfl, hdir⟩
      · exact hsame ▸ h.expected place
      · exact hdir ▸ expected_store _

lemma named_groups {workspace : Workspace} (h : workspace.Rooted root w.disk)
    (hnamed : w.disk.Named) (hgroups : Ends workspace.groups w (.ok groups) started) :
    started.disk.Named := by
  rcases disk_of_groups h hgroups with heq | heq
  · exact heq ▸ hnamed
  · intro name directory hthere
    rw [heq] at hthere
    rcases node?_put_store w.disk root (name :: directory) .rawProfiles with hsame | ⟨hplace, -⟩
    · exact hnamed name directory (hsame ▸ hthere)
    · exact (List.cons.inj hplace).1 ▸ isName_directory _

/-- The samples of a group can be counted. -/
lemma isShort_of_groups {workspace : Workspace} (hdistinct : started.disk.Distinct)
    (hnamed : started.disk.Named) (h : Ends workspace.groups w (.ok groups) started)
    {group : Group} (hgroup : group ∈ groups) : IsShort group.samples.length := by
  obtain ⟨entry, hsamples, -⟩ := mem_groups h hgroup
  exact isShort_length_files hdistinct hnamed hsamples

section Tools

variable (horderly : tools.Orderly) (hneat : tools.Neat) (hroomy : Roomy root)

include horderly hneat hroomy

/-- **All groups are merged**, if all of them can be placed. -/
theorem Settled.mergeAll
    (htools : tools.Merges pipeline.toolchain.llvmProfdata
      (pipeline.settings.mergeArguments ++ extra))
    (hplace : ∀ group ∈ groups, ∃ made, Placeable root group.name made)
    (hnamed : w.disk.Named) (h : Settled pipeline.workspace root w.disk)
    (hgroups : Ends pipeline.workspace.groups w (.ok groups) started) : ∃ merges w',
    Ends (pipeline.mergeAll tools extra) w (.ok merges) w' ∧
      merges.map (fun merged => (merged.name, merged.sampleCount)) =
        groups.map (fun group => (LooseText.ofString group.name, (group.samples.length : Int))) ∧
      (∀ merged ∈ merges, merged.Fit) ∧ Settled pipeline.workspace root w'.disk := by
  have hstarted := settled_groups h hgroups
  have hstep (group : Group) (hgroup : group ∈ groups) (u : World)
      (hu : Settled pipeline.workspace root u.disk) : ∃ made outcome u',
        Ends (pipeline.mergeGroup tools (pipeline.settings.mergeArguments ++ extra) group) u
          (.ok outcome) u' ∧
        IsOutcome group (pathOf ((made ++ mergedSuffix) :: Store.mergedProfiles.directory :: root))
          outcome ∧ Settled pipeline.workspace root u'.disk := by
    obtain ⟨made, hmade⟩ := hplace group hgroup
    obtain ⟨entry, -, hsamples⟩ := mem_groups hgroups hgroup
    exact ⟨made, hu.mergeGroup horderly hneat htools hroomy hmade hsamples⟩
  obtain ⟨merges, w', hmerges, hw'⟩ := exists_ends_mapM (I := fun u : World =>
    Settled pipeline.workspace root u.disk) hstarted fun group hgroup u hu => by
      obtain ⟨made, outcome, u', hend, -, hu'⟩ := hstep group hgroup u hu
      exact ⟨outcome, u', hend, hu'⟩
  refine ⟨merges, w', hgroups.bind hmerges,
    hmerges.map_mapM fun group hgroup u merged u' hend => ?_, fun merged hmerged => ?_, hw'⟩
  · obtain ⟨entry, -, hsamples⟩ := mem_groups hgroups hgroup
    rcases mergeGroup_ends horderly hsamples hend with
      ⟨outcome, hr, hmerge⟩ | ⟨fault, hr, -⟩
    · obtain rfl := Except.ok.inj hr
      rw [hmerge.name, hmerge.sampleCount]
    · cases hr
  · obtain ⟨i, hi⟩ := List.mem_iff_getElem?.1 hmerged
    obtain ⟨group, u, u', hgroup, hu, hend⟩ := hmerges.exists_item (I := fun u : World =>
      Settled pipeline.workspace root u.disk) hstarted (fun group hgroup u a u' hu hend => by
        obtain ⟨made, outcome, v, hother, -, hv⟩ := hstep group hgroup u hu
        exact (hend.unique hother).2 ▸ hv) hi
    have hmem := List.mem_of_getElem? hgroup
    obtain ⟨made, outcome, v, hother, houtcome, -⟩ := hstep group hmem u hu
    obtain rfl := Except.ok.inj (hend.unique hother).1
    exact fit_of_isOutcome (isAbsolute_pathOf _)
      (isShort_of_groups hstarted.distinct (named_groups h.toRooted hnamed hgroups) hgroups hmem)
      houtcome

/-- **All binaries are reported**, if all of them can be placed. -/
theorem Settled.reportAll (htools : tools.Renders pipeline.toolchain.llvmCov extra)
    {merges : List MergeOutcome} (hfit : ∀ merged ∈ merges, merged.Fit)
    (hplace : ∀ merged ∈ merges, ∃ made, Placeable root merged.name.lossy made)
    (h : Settled pipeline.workspace root w.disk) : ∃ reports w',
    Ends (merges.mapM (pipeline.reportOne tools extra)) w (.ok reports) w' ∧
      reports.map (·.name) = merges.map (·.name) ∧
      (∀ outcome ∈ reports, outcome.Fit ∧ (outcome.state = .failed ∨
        outcome.state = .objectMissing ∨ outcome.state = .reported)) ∧
      Settled pipeline.workspace root w'.disk := by
  have hstep (merged : MergeOutcome) (hmerged : merged ∈ merges) (u : World)
      (hu : Settled pipeline.workspace root u.disk) : ∃ outcome u',
        Ends (pipeline.reportOne tools extra merged) u (.ok outcome) u' ∧
          pipeline.Reports u merged outcome u' ∧ Settled pipeline.workspace root u'.disk := by
    obtain ⟨made, hmade⟩ := hplace merged hmerged
    exact hu.reportOne hroomy horderly hneat htools hmade
  obtain ⟨reports, w', hreports, hw'⟩ := exists_ends_mapM (I := fun u : World =>
    Settled pipeline.workspace root u.disk) h fun merged hmerged u hu => by
      obtain ⟨outcome, u', hend, -, hu'⟩ := hstep merged hmerged u hu
      exact ⟨outcome, u', hend, hu'⟩
  have hanswer (outcome : ReportOutcome) (houtcome : outcome ∈ reports) : ∃ merged ∈ merges,
      ∃ u u', Ends (pipeline.reportOne tools extra merged) u (.ok outcome) u' ∧
        pipeline.Reports u merged outcome u' := by
    obtain ⟨i, hi⟩ := List.mem_iff_getElem?.1 houtcome
    obtain ⟨merged, u, u', hmerged, hu, hend⟩ := hreports.exists_item (I := fun u : World =>
      Settled pipeline.workspace root u.disk) h (fun merged hmerged u a u' hu hend => by
        obtain ⟨other, v, hother, -, hv⟩ := hstep merged hmerged u hu
        exact (hend.unique hother).2 ▸ hv) hi
    have hmem := List.mem_of_getElem? hmerged
    obtain ⟨other, v, hother, hreport, -⟩ := hstep merged hmem u hu
    obtain ⟨heq, rfl⟩ := hend.unique hother
    obtain rfl := Except.ok.inj heq
    exact ⟨merged, hmem, u, u', hend, hreport⟩
  refine ⟨reports, w', hreports, hreports.map_mapM fun merged hmerged u outcome u' hend => ?_,
    fun outcome houtcome => ?_, hw'⟩
  · rcases reportOne_ends horderly hend with ⟨other, hr, hreport⟩ | ⟨fault, hr, -⟩
    · obtain rfl := Except.ok.inj hr
      exact hreport.name
    · cases hr
  · obtain ⟨merged, hmerged, u, u', hend, hreport⟩ := hanswer outcome houtcome
    exact ⟨fit_of_reportOne h.bound (isAbsolute_pathOf root) (hfit merged hmerged) hend,
      hreport.state⟩

end Tools

/-! ## The record -/

/-- The place of the record. -/
def recordPlace (root : Location) : Location :=
  reportRecord :: Store.reports.directory :: root

/-- Any place may be touched but one. -/
def Spares (spared : Location) : Location → Option Node → Prop :=
  fun place _ => place ≠ spared

lemma spared_of_altered {workspace : Workspace} {spared : Location}
    {disk disk' : Disk} (h : Altered workspace root (Spares spared) disk disk') :
    disk'.node? spared = disk.node? spared :=
  (h.node spared).resolve_right fun hne => hne rfl

/-- The summary is loaded from the record, whenever its three levels may be read. -/
def Recorded (root : Location) (summary : ReportSummary) (disk : Disk) : Prop :=
  ∃ data text, disk.content? (pathOf (recordPlace root)) = some data ∧
    Text.decodeText? data = some text ∧
      ∀ room, ReportSummary.ofText (room + 3) text = .ok summary

/-- A disk after a document was written beside the reports. -/
structure Written (workspace : Workspace) (root : Location) (name : String) (data : Text.Octets)
    (before after : Disk) : Prop where
  settled : Settled workspace root after
  stands : after.node? (Store.reports.directory :: root) = some .directory
  there : ∃ executable, after.node? (name :: Store.reports.directory :: root) =
    some (.file data executable)
  others : ∀ other, other ≠ name → after.node? (other :: Store.reports.directory :: root) =
    before.node? (other :: Store.reports.directory :: root)

/-- A document beside the reports can be written. -/
lemma Settled.writeDocument {workspace : Workspace} {disk : Disk}
    (h : Settled workspace root disk) (hroomy : Roomy root)
    (hstands : disk.node? (Store.reports.directory :: root) = some .directory) {name : String}
    (hname : name ∈ [reportRecord, reportDocument]) (data : Text.Octets) : ∃ disk',
      Ends (write (pathOf (name :: Store.reports.directory :: root)) data) disk (.ok ()) disk' ∧
        Written workspace root name data disk disk' := by
  obtain ⟨hisName, hnul⟩ : Path.IsName name ∧ '\x00' ∉ name.toList := by
    revert name
    decide
  have hinside : Inside root (name :: Store.reports.directory :: root) :=
    inside_store name (by decide)
  have hends := acts_write name _ data disk (h.entry_below (by decide) hstands hisName hnul)
  unfold Effect.within at hends
  rw [if_neg (hroomy.record name hname)] at hends
  obtain ⟨executable, hends⟩ : ∃ executable,
      Ends (write (pathOf (name :: Store.reports.directory :: root)) data) disk (.ok ())
        (disk.put (name :: Store.reports.directory :: root) (.file data executable)) := by
    have hnode := (h.expected _).record name hname rfl
    have hlink := h.noLink _ hinside.managed
    revert hends
    cases hthere : disk.node? (name :: Store.reports.directory :: root) with
    | none => exact fun hends => ⟨false, hends⟩
    | some node =>
      cases node with
      | directory => exact absurd hthere hnode
      | file _ executable => exact fun hends => ⟨executable, hends⟩
      | link target => exact absurd hthere (hlink target)
  have haltered := Alters.of_tidy (alters_write hinside
    (List.forall_mem_cons.2 ⟨hisName, h.isName _⟩)
    (fun data executable => expected_plain (by decide) (Or.inr ⟨_, _, rfl⟩)) data _ _ _ hends)
    h.toTidy
  refine ⟨_, hends, settled_of_altered h haltered, ?_,
    ⟨executable, node?_put_self _ _ (List.cons_ne_nil _ _)⟩,
    fun other hother => node?_put_of_ne _ _ fun heq => hother (List.cons.inj heq).1⟩
  rwa [node?_put_of_ne _ _ (List.cons_ne_self _ _).symm]

/-- **The record is written**, with the text of the summary. -/
theorem Settled.writeReport (h : Settled pipeline.workspace root w.disk) (hroomy : Roomy root)
    (summary : ReportSummary) : ∃ w', Ends (pipeline.writeReport summary) w (.ok ()) w' ∧
      w'.disk.content? (pathOf (recordPlace root)) =
        some (Text.octetsOf (summaryText summary.toJson)) ∧
      Settled pipeline.workspace root w'.disk := by
  obtain ⟨disk, hstore, hsettled, hstands⟩ := h.store hroomy .reports (by decide)
  have hmade := hsettled.ends_makeDirectories hroomy (by decide : Store.reports ≠ _) hstands
  obtain ⟨disk₁, hrecord, hwritten₁⟩ := hsettled.writeDocument hroomy hstands
    (by simp : reportRecord ∈ _) (Text.octetsOf (summaryText summary.toJson))
  obtain ⟨disk₂, hdocument, hwritten₂⟩ := hwritten₁.settled.writeDocument hroomy hwritten₁.stands
    (by simp : reportDocument ∈ _) (Text.octetsOf (summary.markdown
      ⟨pathOf disk₁.here, pathOf (Store.reports.directory :: root)⟩ w.clock))
  refine ⟨{ w with disk := disk₂ }, hstore.bind ?_, ?_, hwritten₂.settled⟩
  · have hfirst : Ends (Ir.writeWithDirectories (pathOf (recordPlace root))
        (Text.octetsOf (summaryText summary.toJson))) disk (.ok ()) disk₁ := by
      rw [Ir.writeWithDirectories, recordPlace, parent_pathOf]
      exact hmade.bind hrecord
    rw [child_pathOf _ (by decide), child_pathOf _ (by decide)]
    refine Ends.bind (ends_onDisk_ok.2 ⟨disk₁, hfirst, rfl⟩) ?_
    rw [ends_placeIn_bind, ends_get_bind]
    exact ends_onDisk_ok.2 ⟨disk₂, hdocument, rfl⟩
  · obtain ⟨executable, hnode⟩ := hwritten₁.there
    refine content?_eq_some.2 ⟨recordPlace root, executable, ?_,
      (hwritten₂.others reportRecord (by decide)).trans hnode⟩
    exact (find_at (hwritten₂.settled.entry_below (by decide) hwritten₂.stands (by decide)
      (by decide)) true).trans (if_neg (hroomy.record _ (by simp)))

/-! ## Concluding a run -/

/-- A run over some groups was concluded: it has an outcome of each kind for every group, it ends
with the summary or with the verdict on it, and the summary is loaded from the record. -/
structure Concluded (root : Location) (groups : List Group) (r : Except Fault ReportSummary)
    (after : Disk) (summary : ReportSummary) : Prop where
  merges : summary.merges.map (fun merged => (merged.name, merged.sampleCount)) =
    groups.map fun group => (LooseText.ofString group.name, (group.samples.length : Int))
  reports : summary.reports.map (·.name) = groups.map (LooseText.ofString ·.name)
  result : r = if (∃ outcome ∈ summary.reports, outcome.state = .failed) ∧
      ∀ outcome ∈ summary.reports, outcome.state ≠ .reported
    then .error (.phase (.reports (summary.reports.countP fun outcome =>
      outcome.state ≠ .objectMissing)))
    else .ok summary
  recorded : Recorded root summary after

/-- **A run is concluded** with the summary, or with the verdict on it. -/
theorem Settled.conclude (h : Settled pipeline.workspace root w.disk) (hroomy : Roomy root)
    {summary : ReportSummary} (hfit : summary.Fit)
    (hstates : ∀ o ∈ summary.reports,
      o.state = .failed ∨ o.state = .objectMissing ∨ o.state = .reported)
    (hsamples : summary.merges = [] → ∃ path u,
      Ends (pipeline.workspace.store .rawProfiles) u (.ok path) w)
    {r : Except Fault ReportSummary} (hend : Ends (pipeline.conclude summary) w r w') :
    r = (if (∃ outcome ∈ summary.reports, outcome.state = .failed) ∧
          ∀ outcome ∈ summary.reports, outcome.state ≠ .reported
        then .error (.phase (.reports (summary.reports.countP fun outcome =>
          outcome.state ≠ .objectMissing)))
        else .ok summary) ∧ Recorded root summary w'.disk := by
  obtain ⟨t, hwrite, hcontent, -⟩ := h.writeReport hroomy summary
  refine ⟨?_, ?_⟩
  · rcases conclude_ends hstates hsamples hend with ⟨fault, -, hother⟩ | hr
    · cases (hother.unique hwrite).1
    · exact hr
  · rcases ends_bind.1 hend with ⟨⟨⟩, t', hother, hrest⟩ | ⟨fault, hother, -⟩
    · obtain ⟨-, rfl⟩ := hother.unique hwrite
      have hgrows : Grows t'.disk w'.disk := respects_concluding (respects_store _)
        (fun _ _ => respects_note _ _) summary _ _ _ hrest
      exact ⟨_, _, hgrows.content?_of_eq_some hcontent,
        decodeText?_summaryText (agrees_reporting 0) hfit,
        fun room => ofText_summaryText (agrees_reporting room) hfit⟩
    · cases (hother.unique hwrite).1

/-! ## Whole runs -/

section Runs

variable (horderly : tools.Orderly) (hneat : tools.Neat)
  (hmerges : tools.Merges pipeline.toolchain.llvmProfdata pipeline.settings.mergeArguments)
  (hroomy : Roomy root) (h : Settled pipeline.workspace root w.disk)

include horderly hneat hmerges hroomy h

/-- **Nothing stops a report run before its record is written**, if all groups are placeable: it
ends with the summary or with the verdict on it, and the summary is loaded from the record. -/
theorem report_concludes
    (hrenders : tools.Renders pipeline.toolchain.llvmCov
      (pipeline.settings.reportArguments ++ extra))
    (hgroups : Ends pipeline.workspace.groups w (.ok groups) started)
    (hplace : ∀ group ∈ groups, ∃ made, Placeable root group.name made)
    (hnamed : w.disk.Named) {r : Except Fault ReportSummary}
    (hend : Ends (pipeline.report tools extra) w r w') :
    ∃ summary, Concluded root groups r w'.disk summary := by
  rw [← List.append_nil pipeline.settings.mergeArguments] at hmerges
  obtain ⟨merges, w₁, hall, hnames, hfit, hsettled₁⟩ := h.mergeAll horderly hneat hroomy hmerges
    hplace hnamed hgroups
  have hmerged : merges.map (·.name) = groups.map (LooseText.ofString ·.name) := by
    simpa [Function.comp_def] using congrArg (List.map Prod.fst) hnames
  have hplaced (merged : MergeOutcome) (hmem : merged ∈ merges) :
      ∃ made, Placeable root merged.name.lossy made := by
    have hname : merged.name ∈ groups.map (LooseText.ofString ·.name) :=
      hmerged ▸ List.mem_map_of_mem hmem
    obtain ⟨group, hgroup, heq⟩ := List.mem_map.1 hname
    rw [← heq, LooseText.lossy_ofString]
    exact hplace group hgroup
  obtain ⟨reports, w₂, hreports, hreported, hstates, hsettled₂⟩ := hsettled₁.reportAll horderly
    hneat hroomy hrenders hfit hplaced
  have hsamples (hnone : merges = []) : ∃ path u,
      Ends (pipeline.workspace.store .rawProfiles) u (.ok path) w₂ := by
    subst hnone
    obtain rfl : groups = [] := List.map_eq_nil_iff.1 hmerged.symm
    obtain ⟨path, hstore⟩ := store_of_groups hgroups
    obtain ⟨-, rfl⟩ := hall.unique (hgroups.bind (ends_pure.2 ⟨rfl, rfl⟩))
    rw [List.mapM_nil] at hreports
    obtain ⟨-, rfl⟩ := ends_pure.1 hreports
    exact ⟨path, w, hstore⟩
  rw [report_eq] at hend
  have hbatch : Ends (batch (pipeline.mergeAll tools []) id fun _ =>
      pipeline.reportOne tools (pipeline.settings.reportArguments ++ extra)) w
      (.ok (merges, reports)) w₂ :=
    hall.bind (hreports.bind (ends_pure.2 ⟨rfl, rfl⟩))
  rcases ends_bind.1 hend with ⟨_, t, hother, hlast⟩ | ⟨fault, hother, -⟩
  · obtain ⟨heq, rfl⟩ := hother.unique hbatch
    obtain rfl := Except.ok.inj heq
    obtain ⟨hr, hrecorded⟩ := hsettled₂.conclude hroomy
      ⟨hfit, fun outcome houtcome => (hstates outcome houtcome).1⟩
      (fun outcome houtcome => (hstates outcome houtcome).2) hsamples hlast
    exact ⟨⟨merges, reports⟩, hnames, hreported.trans hmerged, hr, hrecorded⟩
  · cases (hother.unique hbatch).1

/-- **A group that no directory name can be made of stops a report run**, even if all groups before
it are placeable: the run ends with a fault that is no verdict, and the record is as it was. -/
theorem report_stops {before behind : List Group} {group : Group}
    (hgroups : Ends pipeline.workspace.groups w (.ok (before ++ group :: behind)) started)
    (hplace : ∀ group ∈ before, ∃ made, Placeable root group.name made) {bad : Artifact.BadName}
    (hbad : Artifact.directoryName group.name = .error bad) :
    ∃ w', Ends (pipeline.report tools extra) w (.error (.workspace (.badName bad))) w' ∧
      w'.disk.node? (recordPlace root) = w.disk.node? (recordPlace root) := by
  have hstarted := settled_groups h hgroups
  have hallows : Allows root (Spares (recordPlace root)) :=
    ⟨fun store _ => (ne_store_of_length (by simp [recordPlace]) store).symm,
      fun name _ _ _ _ => ne_below (by decide)⟩
  obtain ⟨merges, t, hmerged, ht⟩ := exists_ends_mapM (I := fun u : World =>
    Settled pipeline.workspace root u.disk) hstarted fun group hgroup u hu => by
      obtain ⟨made, hmade⟩ := hplace group hgroup
      obtain ⟨entry, -, hsamples⟩ := mem_groups hgroups (List.mem_append_left _ hgroup)
      obtain ⟨outcome, u', hend, -, hu'⟩ := hu.mergeGroup horderly hneat hmerges hroomy hmade
        hsamples
      exact ⟨outcome, u', hend, hu'⟩
  obtain ⟨disk, hstore, -⟩ := ht.store hroomy .mergedProfiles (by decide)
  have hname : Ends (Workspace.directoryName group.name) { t with disk }
      (.error (.workspace (.badName bad))) { t with disk } := by
    unfold Workspace.directoryName
    rw [hbad]
    exact ends_throw.2 ⟨rfl, rfl⟩
  have hprofile : Ends (pipeline.workspace.mergedProfile group.name) t
      (.error (.workspace (.badName bad))) { t with disk } :=
    hstore.bind hname.bind_error
  have hgroup : Ends (pipeline.mergeGroup tools pipeline.settings.mergeArguments group) t
      (.error (.workspace (.badName bad))) { t with disk } := by
    rw [mergeGroup_eq]
    exact (hprofile.bind_error : Ends (pipeline.prepare group) _ _ _).bind_error
  have hall : Ends (pipeline.mergeAll tools []) w (.error (.workspace (.badName bad)))
      { t with disk } := by
    unfold Pipeline.mergeAll
    rw [List.append_nil]
    exact hgroups.bind (hgroup.mapM_error hmerged)
  have hfirst : started.disk.node? (recordPlace root) = w.disk.node? (recordPlace root) := by
    rcases disk_of_groups h.toRooted hgroups with heq | heq
    · rw [heq]
    · rw [heq, node?_put_of_ne _ _ (ne_store_of_length (by simp [recordPlace]) .rawProfiles)]
  have hbefore := Alters.of_tidy (Respects.mapM (R := AltersBy pipeline root (fun _ => False) _)
    (fun group _ => alters_mergeGroup hallows hneat hmerges group) _ _ _ hmerged) hstarted.toTidy
  have hlast := Alters.of_tidy (alters_managed_store (by decide)
    (hallows.store .mergedProfiles (by decide)) _ _ _ hstore) ht.toTidy
  rw [report_eq]
  refine ⟨_, (hall.bind_error : Ends (batch (pipeline.mergeAll tools []) id _) _ _ _).bind_error,
    ?_⟩
  rw [← hfirst, ← spared_of_altered hbefore]
  exact spared_of_altered hlast

end Runs

/-! ## A group without an object, and a name that is too long -/

section Samples

/-- Outside of the raw store there is nothing in such a world but the root and the merged store. -/
lemma eq_of_node?_groupWorld {names : List String} {location : Location}
    (h : (groupWorld names).disk.node? location ≠ none) (hplace : Managed ["w"] location) :
    location = ["w"] ∨ location = [Store.mergedProfiles.directory, "w"] := by
  have hne : location ≠ [] := fun heq => absurd (heq ▸ hplace.below) (by decide)
  rw [node?, if_neg hne] at h
  obtain ⟨node, hnode⟩ := Option.ne_none_iff_exists'.1 h
  have hmem := mem_of_get? hnode
  simp only [groupWorld, List.mem_append, List.mem_cons, List.not_mem_nil, or_false,
    List.mem_flatMap, Prod.mk.injEq] at hmem
  rcases hmem with (⟨rfl, -⟩ | ⟨rfl, -⟩ | ⟨rfl, -⟩) | ⟨name, -, ⟨rfl, -⟩ | ⟨rfl, -⟩⟩
  · exact Or.inl rfl
  · exact Or.inr rfl
  · exact absurd List.suffix_rfl hplace.outside
  · exact absurd (List.suffix_cons _ _) hplace.outside
  · exact absurd ⟨["s.profraw", name], rfl⟩ hplace.outside

/-- There is nothing in the stores of such a world but samples. -/
lemma node?_groupWorld {names : List String} {name : String} {store : Store}
    (hstore : store ≠ .rawProfiles) :
    (groupWorld names).disk.node? (name :: store.directory :: ["w"]) = none := by
  by_contra h
  rcases eq_of_node?_groupWorld h (inside_store name hstore).managed
    with heq | heq <;> simp at heq

/-- The entries there have names if the groups have. -/
lemma named_groupWorld {names : List String} (h : ∀ name ∈ names, Path.IsName name) :
    (groupWorld names).disk.Named := by
  refine named_of_entries fun entry hmem => ?_
  obtain hentry | hentry := List.mem_append.1 hmem
  · clear h hmem
    revert entry
    decide +kernel
  · obtain ⟨name, hname, hentry⟩ := List.mem_flatMap.1 hentry
    rw [List.mem_cons, List.mem_singleton] at hentry
    obtain rfl | rfl := hentry
    · simpa using h name hname
    · simpa using (by decide +kernel : Path.IsName "s.profraw")

/-- What is there is what a run expects. -/
lemma settled_groupWorld {names : List String} (hdistinct : (groupWorld names).disk.Distinct)
    (htree : ∀ entry ∈ (groupWorld names).disk.entries,
      (groupWorld names).disk.node? entry.1.tail = some .directory)
    (hlinks : (groupWorld names).disk.linkCount = 0) :
    Settled profilePipeline.workspace ["w"] (groupWorld names).disk where
  bound := rfl
  names := by decide +kernel
  tree := isTree_of_entries htree
  stands := rfl
  clean := by decide +kernel
  noLink location _ := noLink_of_linkCount hlinks location
  distinct := hdistinct
  expected location := by
    refine ⟨?_, ?_, ?_, ?_⟩
    · rintro store hstore rfl
      refine or_iff_not_imp_left.2 fun h => ?_
      rcases eq_of_node?_groupWorld h (managed_store hstore) with heq | heq
      · simp at heq
      · rw [heq]
        rfl
    · rintro name rfl
      rw [node?_groupWorld (by decide)]
      decide
    · rintro name - rfl
      rw [node?_groupWorld (by decide)]
      decide
    · rintro name store hstore rfl h
      exact absurd (node?_groupWorld (ne_rawProfiles_of_searched hstore)) h

lemma neat_idle : idle.Neat :=
  ⟨fun _ _ _ h => h, fun _ _ _ _ _ _ h => Or.inl h⟩

lemma merges_idle (tool : String) : idle.Merges tool [] :=
  fun _ _ _ disk _ => Refiles.refl _ disk

lemma renders_idle (tool : String) : idle.Renders tool [] :=
  fun _ _ _ _ _ _ _ _ htree _ => ⟨htree, Within.of_eq rfl⟩

lemma roomy_sample : Roomy ["w"] :=
  ⟨by intro store; cases store <;> decide +kernel, by decide +kernel⟩

lemma placeable_a : Placeable ["w"] "a" "a" :=
  ⟨by decide +kernel, by decide +kernel, by decide +kernel, by decide +kernel, by decide +kernel,
    by decide +kernel⟩

/-- A disk with a file in the staging area. -/
def withObject (disk : Disk) (name : String) : Disk :=
  (disk.put ["staging", "w"] .directory).put [name, "staging", "w"]
    (.file (Text.octetsOf "o") false)

/-- With an object a workspace without a staging area stays settled. -/
lemma settled_withObject {disk : Disk} {name : String}
    (h : Settled profilePipeline.workspace ["w"] disk)
    (hnone : disk.node? ["staging", "w"] = none) (hname : Path.IsName name)
    (hnul : '\x00' ∉ name.toList) (hshort : ¬ TooLong [name, "staging", "w"]) :
    Settled profilePipeline.workspace ["w"] (withObject disk name) := by
  have hstaging : Settled profilePipeline.workspace ["w"] (disk.put ["staging", "w"] .directory) :=
    h.put hnone h.stands (by simp) (expected_store .staging)
  have hobject : Expected ["w"] (name :: Store.staging.directory :: ["w"])
      (some (.file (Text.octetsOf "o") false)) :=
    expected_object hname hnul hshort (Or.inr ⟨_, _, rfl⟩)
  refine hstaging.put ?_ (by simp [node?_put]) (by simp) hobject
  rw [node?_put_of_ne _ _ (by simp)]
  exact h.tree.none_below hnone (List.suffix_cons _ _)

/-- Three groups, one with an odd name; there is an object for the last one. -/
def oddWorld : World :=
  { groupWorld ["-", "a b", "b"] with
    disk := withObject (groupWorld ["-", "a b", "b"]).disk "b.o" }

lemma ends_groups_oddWorld : Ends profilePipeline.workspace.groups oddWorld
    (.ok [rawGroup "-", rawGroup "a b", rawGroup "b"]) oddWorld :=
  ends_groups_of_samples ["-", "a b", "b"] (by decide +kernel) (by decide +kernel)
    (by decide +kernel)

/-- Where an object is missing for two of three groups, the run is concluded. -/
theorem report_concludes_missing :
    Ends profilePipeline.workspace.groups oddWorld
      (.ok [rawGroup "-", rawGroup "a b", rawGroup "b"]) oddWorld ∧
    ∃ r after summary, Ends (profilePipeline.report idle []) oddWorld r after ∧
      Concluded ["w"] [rawGroup "-", rawGroup "a b", rawGroup "b"] r after.disk summary := by
  have hsettled : Settled profilePipeline.workspace ["w"] oddWorld.disk :=
    settled_withObject
      (settled_groupWorld (by decide +kernel) (by decide +kernel) (by decide +kernel))
      (by decide +kernel) (by decide +kernel) (by decide +kernel) (by decide +kernel)
  have hnamed : oddWorld.disk.Named := named_of_entries (by decide +kernel)
  have hplace : ∀ group ∈ [rawGroup "-", rawGroup "a b", rawGroup "b"],
      ∃ made, Placeable ["w"] group.name made := by
    have hplaceable : ∀ p ∈ [("-", "-"), ("a b", "a_b"), ("b", "b")],
        Placeable ["w"] p.1 p.2 := fun p hp =>
      ⟨by revert p; decide +kernel, by revert p; decide +kernel, by revert p; decide +kernel,
        by revert p; decide +kernel, by revert p; decide +kernel, by revert p; decide +kernel⟩
    simp only [List.forall_mem_cons] at hplaceable ⊢
    exact ⟨⟨_, hplaceable.1⟩, ⟨_, hplaceable.2.1⟩, ⟨_, hplaceable.2.2.1⟩, by simp⟩
  obtain ⟨r, after, hend⟩ := exists_ends (profilePipeline.report idle []) oddWorld
  obtain ⟨summary, hsummary⟩ := report_concludes orderly_idle neat_idle
    (merges_idle "llvm-profdata-17") roomy_sample hsettled (renders_idle "llvm-cov-17")
    ends_groups_oddWorld hplace hnamed hend
  exact ⟨ends_groups_oddWorld, r, after, summary, hend, hsummary⟩

/-- **A group with a long name stops a report run.**  Samples can be stored under the name, but its
profile cannot: the run ends with a refusal of the system, and nothing is recorded about the group
or about the one after it. -/
theorem not_report_of_long_name : idle.Orderly ∧ idle.Neat ∧
    Settled profilePipeline.workspace ["w"] longWorld.disk ∧ Roomy ["w"] ∧
    (∀ name ∈ [longName, "b"], Artifact.directoryName name = .ok name) ∧
    Ends profilePipeline.workspace.groups longWorld
      (.ok [rawGroup longName, rawGroup "b"]) longWorld ∧
    ∃ after, Ends (profilePipeline.report idle []) longWorld
      (.error (.disk (.system (Cause.nameTooLong.about (storedProfile longName))))) after ∧
      after.disk.content? (pathOf (recordPlace ["w"])) = none ∧ ∀ summary,
        ¬ Concluded ["w"] [rawGroup longName, rawGroup "b"]
          (.error (.disk (.system (Cause.nameTooLong.about (storedProfile longName)))))
          after.disk summary := by
  obtain ⟨after, hmerge, hdisk, -⟩ := ends_mergeAll_longWorld
  have hnames : ∀ name ∈ [longName, "b"], Artifact.directoryName name = .ok name := by
    simpa using ⟨directoryName_longName, (by decide +kernel : Artifact.directoryName "b" = .ok "b")⟩
  have hnone : after.disk.content? (pathOf (recordPlace ["w"])) = none := by
    rw [hdisk]
    decide +kernel
  refine ⟨orderly_idle, neat_idle,
    settled_groupWorld (by decide +kernel) (by decide +kernel) (by decide +kernel), roomy_sample,
    hnames, ends_groups_longWorld, after, ?_, hnone, ?_⟩
  · rw [report_eq]
    exact (hmerge.bind_error :
      Ends (batch (profilePipeline.mergeAll idle []) id _) _ _ _).bind_error
  · rintro summary ⟨-, -, -, data, -, hdata, -⟩
    cases hnone.symm.trans hdata

end Samples

end WasmCoverage.Pipeline
