import WasmCoverage.Proofs.Pipeline.Calls
import WasmCoverage.Proofs.Pipeline.Record
import WasmCoverage.Proofs.Tool.Strict

/-!
# Reports without leftovers

What earlier report runs left makes no difference to the next: it calls the same tools, ends with
the same summary or the same verdict, and leaves the same profiles, reports and record
(**`report_reproduces`**).  The tools must go by what they are given, every group must be placeable,
and nothing that was left may be held.

Where the profile of a group has too long a path, the run is refused before its record is written
(`report_refused`), and then the record of an earlier run stays
(`not_report_reproduces_of_long_name`).
-/

namespace WasmCoverage.Pipeline

open WasmCoverage.Disk WasmCoverage.Workspace

variable {pipeline : Pipeline} {tools : Toolbox} {extra : List String} {root : Location}
  {w v w' v' : World} {name made : String}

/-! ## The record -/

lemma not_product_store : ¬ Product root (Store.reports.directory :: root) := by
  rintro ⟨made, hprofile | ⟨-, htree⟩⟩
  · exact absurd hprofile.length_le (by simp)
  · exact absurd htree.length_le (by simp)

lemma not_product_document (hname : name ∈ [reportRecord, reportDocument]) :
    ¬ Product root (name :: Store.reports.directory :: root) := by
  rintro ⟨made, hprofile | ⟨hmade, htree⟩⟩
  · exact not_below_other (by decide : Store.reports ≠ .mergedProfiles) (List.suffix_cons name _)
      List.suffix_rfl ((List.suffix_cons _ _).trans hprofile)
  · obtain rfl := (List.cons.inj (htree.eq_of_length rfl)).1
    exact hmade hname

/-- The record and the document are written beside the profiles and the reports. -/
lemma node?_writeReport (h : Settled pipeline.workspace root w.disk) {summary : ReportSummary}
    {r : Except Fault Unit} (hend : Ends (pipeline.writeReport summary) w r w')
    {location : Location} (hproduct : Product root location) :
    w'.disk.node? location = w.disk.node? location := by
  have haltered : Altered pipeline.workspace root (fun place _ => ¬ Product root place) w.disk
      w'.disk :=
    Alters.of_tidy (alters_writeReport not_product_store
      (fun name hname _ _ => not_product_document hname) summary _ _ _ hend) h.toTidy
  exact (haltered.node location).resolve_right fun hnot => hnot hproduct

/-- A run concludes with its judgement, and its record is written. -/
lemma Settled.concludes (h : Settled pipeline.workspace root w.disk) (hroomy : Roomy root)
    (summary : ReportSummary) (hsamples : summary.merges = [] → ∃ path u,
      Ends (pipeline.workspace.store .rawProfiles) u (.ok path) w) : ∃ w',
    Ends (pipeline.conclude summary) w (judgement summary) w' ∧ Quiet w w' ∧
      (∀ location, Product root location → w'.disk.node? location = w.disk.node? location) ∧
      w'.disk.content? (pathOf (recordPlace root)) =
        some (Text.octetsOf (summaryText summary.toJson)) := by
  obtain ⟨t, hwrite, hcontent, -⟩ := h.writeReport hroomy summary
  obtain ⟨w', hend, hdisk, -⟩ := ends_conclude hsamples hwrite
  refine ⟨w', hend, Makes.calls_eq (makes_conclude summary _ _ _ hend),
    fun location hproduct => ?_, ?_⟩
  · rw [hdisk]
    exact node?_writeReport h hwrite hproduct
  · rw [hdisk, hcontent]

/-! ## Whole runs -/

/-- The profiles of the groups, the reports that were asked for and the record are the same. -/
structure Reproduced (pipeline : Pipeline) (extra : List String) (root : Location)
    (groups : List Group) (calls : List Call) (disk other : Disk) : Prop where
  profiles : ∀ group ∈ groups, ∀ made, Artifact.directoryName group.name = .ok made →
    other.node? (profilePlace root made) = disk.node? (profilePlace root made)
  reports : ∀ profile object made, Path.IsName made →
    pipeline.renderingCall extra root profile object made ∈ calls →
    ∀ location, treePlace root made <:+ location → other.node? location = disk.node? location
  record : ∃ data, disk.content? (pathOf (recordPlace root)) = some data ∧
    other.content? (pathOf (recordPlace root)) = some data

section Runs

variable {groups : List Group} {started : World}
  (hinputs : DifferInLeftovers pipeline.workspace root w.disk v.disk)
  (horderly : tools.Orderly) (hneat : tools.Neat)
  (hmerges : tools.Merges pipeline.toolchain.llvmProfdata pipeline.settings.mergeArguments)
  (hrenders : tools.Renders pipeline.toolchain.llvmCov (pipeline.settings.reportArguments ++ extra))
  (hgoes : tools.Reproducible pipeline root extra) (hroomy : Roomy root)
  (hnamed : w.disk.Named) (hgroups : Ends pipeline.workspace.groups w (.ok groups) started)
  (hplace : ∀ group ∈ groups, ∃ made, Placeable root group.name made)

include hinputs horderly hneat hmerges hrenders hgoes hroomy hnamed hgroups hplace

/-- **All binaries are merged and reported alike**, whatever was left over. -/
theorem Alongside.batch : Together (fun done w' v' => ∃ same,
        Alongside pipeline extra root w.calls v.calls same w' v' ∧
        (∀ group ∈ groups, ∀ made, Artifact.directoryName group.name = .ok made →
          same (profilePlace root made)) ∧
        (done.1 = [] → ∀ u ∈ [w', v'], ∃ path t,
          Ends (pipeline.workspace.store .rawProfiles) t (.ok path) u))
      (WasmCoverage.batch (pipeline.mergeAll tools []) id fun _ =>
        pipeline.reportOne tools (pipeline.settings.reportArguments ++ extra))
      (WasmCoverage.batch (pipeline.mergeAll tools []) id fun _ =>
        pipeline.reportOne tools (pipeline.settings.reportArguments ++ extra)) w v := by
  obtain ⟨started', hgroups', hstarted, hstarted', htwins, -, hsampled⟩ :=
    hinputs.twins.groups hnamed hgroups
  have hbegun : Alongside pipeline extra root w.calls v.calls (fun _ => False) started started' :=
    { twins := ⟨_, fun _ => False.elim, htwins⟩
      product := fun _ => False.elim
      calls := ⟨[], by rw [hstarted, List.append_nil], by rw [hstarted', List.append_nil],
        fun _ hcall => by cases hcall⟩ }
  obtain ⟨merges, w₁, v₁, hmerged, hmerged', same₁, -, hprofiles, houtcomes, h₁⟩ :=
    Alongside.mergeGroups horderly hneat hmerges hgoes hroomy
      (fun group hgroup => ⟨hsampled group hgroup, hplace group hgroup⟩) hbegun
  obtain ⟨reports, w₂, v₂, hreports, hreports', same₂, hmore, h₂⟩ :=
    Alongside.reportAll horderly hneat hrenders hgoes hroomy houtcomes h₁
  have hbatch {u t u₁ u₂ : World} (hlisted : Ends pipeline.workspace.groups u (.ok groups) t)
      (hmerge : Ends (groups.mapM (pipeline.mergeGroup tools pipeline.settings.mergeArguments)) t
        (.ok merges) u₁)
      (hreport : Ends (merges.mapM (pipeline.reportOne tools
        (pipeline.settings.reportArguments ++ extra))) u₁ (.ok reports) u₂) :
      Ends (WasmCoverage.batch (pipeline.mergeAll tools []) id fun _ =>
        pipeline.reportOne tools (pipeline.settings.reportArguments ++ extra)) u
        (.ok (merges, reports)) u₂ ∧
      (merges = [] → ∃ path t, Ends (pipeline.workspace.store .rawProfiles) t (.ok path) u₂) := by
    refine ⟨Ends.bind (hlisted.bind ?_) (hreport.bind (ends_pure.2 ⟨rfl, rfl⟩)), ?_⟩
    · rwa [List.append_nil]
    · rintro rfl
      obtain rfl : groups = [] := List.eq_nil_of_length_eq_zero hmerge.length_mapM
      obtain ⟨path, hstore⟩ := store_of_groups hlisted
      obtain ⟨-, rfl⟩ := ends_pure.1 hmerge
      obtain ⟨-, rfl⟩ := ends_pure.1 hreport
      exact ⟨path, u, hstore⟩
  obtain ⟨hleft, hraw⟩ := hbatch hgroups hmerged hreports
  obtain ⟨hright, hraw'⟩ := hbatch hgroups' hmerged' hreports'
  refine ⟨(merges, reports), w₂, v₂, hleft, hright, same₂, h₂, fun group hgroup made hmade =>
    hmore _ (hprofiles group hgroup made hmade), fun hnone => ?_⟩
  rw [List.forall_mem_cons, List.forall_mem_singleton]
  exact ⟨hraw hnone, hraw' hnone⟩

/-- **A report run does not depend on what earlier runs left.** -/
theorem report_reproduces {r : Except Fault ReportSummary}
    (hend : Ends (pipeline.report tools extra) w r w') :
    ∃ v' calls, Ends (pipeline.report tools extra) v r v' ∧
      ((∃ summary, r = .ok summary) ∨ ∃ count, r = .error (.phase (.reports count))) ∧
      w'.calls = w.calls ++ calls ∧ v'.calls = v.calls ++ calls ∧
      Reproduced pipeline extra root groups calls w'.disk v'.disk := by
  obtain ⟨⟨merges, reports⟩, w₁, v₁, hbatch, hbatch', same, h₁, hprofiles, hraw⟩ :=
    Alongside.batch hinputs horderly hneat hmerges hrenders hgoes hroomy hnamed hgroups hplace
  obtain ⟨apart, hapart, htwins⟩ := h₁.twins
  obtain ⟨calls, hcalls, hcalls', hrendered⟩ := h₁.calls
  obtain ⟨w₂, hlast, hquiet, hkept, hrecord⟩ := htwins.left.concludes hroomy ⟨merges, reports⟩
    fun hnone => hraw hnone w₁ (by simp)
  obtain ⟨v₂, hlast', hquiet', hkept', hrecord'⟩ := htwins.right.concludes hroomy
    ⟨merges, reports⟩ fun hnone => hraw hnone v₁ (by simp)
  have hrun : Ends (pipeline.report tools extra) w (judgement ⟨merges, reports⟩) w₂ := by
    rw [report_eq]
    exact hbatch.bind hlast
  have hrun' : Ends (pipeline.report tools extra) v (judgement ⟨merges, reports⟩) v₂ := by
    rw [report_eq]
    exact hbatch'.bind hlast'
  obtain ⟨rfl, rfl⟩ := hend.unique hrun
  have hsame (location : Location) (hlocation : same location) :
      v₂.disk.node? location = w'.disk.node? location := by
    have hproduct := h₁.product location hlocation
    rw [hkept location hproduct, hkept' location hproduct]
    exact htwins.node location (hapart location hlocation)
  refine ⟨v₂, calls, hrun', ?_, hquiet.trans hcalls, hquiet'.trans hcalls', ?_⟩
  · unfold judgement
    split
    · next count hjudged => exact Or.inr ⟨count, rfl⟩
    · exact Or.inl ⟨_, rfl⟩
  · exact
      { profiles := fun group hgroup made hmade => hsame _ (hprofiles group hgroup made hmade)
        reports := fun profile object made hmade hcall location hbelow =>
          hsame location (hrendered _ hcall profile object made hmade rfl location hbelow)
        record := ⟨_, hrecord, hrecord'⟩ }

end Runs

/-! ## No room for a profile -/

section Refused

variable {group : Group} {behind : List Group} {started : World}
  (h : Settled pipeline.workspace root w.disk) (hroomy : Roomy root)
  (hmade : Artifact.directoryName group.name = .ok made)
  (hlong : TooLong (profilePlace root made))

include h hroomy hmade hlong

/-- A group whose profile has too long a path is not merged, and the record stays. -/
lemma Settled.mergeGroup_error : ∃ w',
    Ends (pipeline.mergeGroup tools extra group) w
      (.error (.disk (tooLong (profilePlace root made)))) w' ∧
      w'.disk.node? (recordPlace root) = w.disk.node? (recordPlace root) ∧ w'.calls = w.calls := by
  obtain ⟨disk, hstore, hsettled, hstands⟩ := h.store hroomy .mergedProfiles (by decide)
  have hprofile : Ends (pipeline.workspace.mergedProfile group.name) w
      (.ok (pathOf (profilePlace root made))) { w with disk } := by
    refine hstore.bind ((ends_directoryName_ok.2 ⟨hmade, rfl⟩).bind ?_)
    rw [child_pathOf _ (isName_profile hmade)]
    exact ends_pure.2 ⟨rfl, rfl⟩
  have hremove := acts_removeIfThere _ _ disk (hsettled.entry_profile hstands hmade)
  unfold Effect.within at hremove
  rw [if_pos hlong] at hremove
  obtain ⟨t, hprepare, hdisk, hcalls⟩ := ends_prepare hprofile hremove
  have hmanaged : Managed root (Store.mergedProfiles.directory :: root) :=
    managed_store (by decide)
  refine ⟨t, ?_, ?_, hcalls⟩
  · rw [mergeGroup_eq]
    exact hprepare.bind_error
  · rw [hdisk]
    exact (Twins.touches_of_store h (h.noLink _ hmanaged) hstore).node?_eq
      (ne_store_of_length (by simp [recordPlace]) _)

/-- **It stops a report run**, before a tool is called, and the record stays. -/
theorem report_refused
    (hgroups : Ends pipeline.workspace.groups w (.ok (group :: behind)) started) : ∃ w',
    Ends (pipeline.report tools extra) w (.error (.disk (tooLong (profilePlace root made)))) w' ∧
      w'.disk.node? (recordPlace root) = w.disk.node? (recordPlace root) ∧ w'.calls = w.calls := by
  obtain ⟨w', hmerge, hnode, hcalls⟩ := Settled.mergeGroup_error
    (settled_groups h hgroups) hroomy hmade hlong
  have hall : Ends (pipeline.mergeAll tools []) w
      (.error (.disk (tooLong (profilePlace root made)))) w' := by
    refine hgroups.bind ?_
    rw [List.mapM_cons]
    exact hmerge.bind_error
  refine ⟨w', ?_, hnode.trans ?_, hcalls.trans ?_⟩
  · rw [report_eq]
    exact (hall.bind_error :
      Ends (WasmCoverage.batch (pipeline.mergeAll tools []) id _) _ _ _).bind_error
  · rcases disk_of_groups h.toRooted hgroups with heq | heq
    · rw [heq]
    · rw [heq, node?_put_of_ne _ _ (ne_store_of_length (by simp [recordPlace]) _)]
  · obtain ⟨samples, hstore⟩ := store_of_groups hgroups
    rw [(disk_of_store h.toRooted hstore).2]

end Refused

/-! ## A used workspace -/

section Samples

open WasmCoverage.Text (octetsOf)

/-- A world with samples of `a` and an object for them. -/
def freshWorld : World :=
  { groupWorld ["a"] with
    disk := ((groupWorld ["a"]).disk.put ["staging", "w"] .directory).put ["a.o", "staging", "w"]
      (.file (octetsOf "o") false) }

/-- A disk with the merged store of `w`, on which an earlier run left a profile, a report and a
record. -/
def used (disk : Disk) : Disk :=
  ((((disk.put ["a.profdata", "merged-profiles", "w"] (.file (octetsOf "old") false)).put
    ["reports", "w"] .directory).put ["a", "reports", "w"] .directory).put
    ["old.html", "a", "reports", "w"] (.file (octetsOf "old") false)).put
    ["summary.json", "reports", "w"] (.file (octetsOf "old") false)

lemma settled_freshWorld : Settled profilePipeline.workspace ["w"] freshWorld.disk :=
  settled_withObject
    (settled_groupWorld (by decide +kernel) (by decide +kernel) (by decide +kernel))
    (by decide +kernel) (by decide +kernel) (by decide +kernel) (by decide +kernel)

section Used

variable {workspace : Workspace} {disk : Disk} (h : Settled workspace ["w"] disk)
  (hstands : disk.node? ["merged-profiles", "w"] = some .directory)
  (hprofile : disk.node? ["a.profdata", "merged-profiles", "w"] = none)
  (hreports : disk.node? ["reports", "w"] = none)

include h hstands hprofile hreports

/-- A workspace without a report store is settled after it was used. -/
lemma settled_used : Settled workspace ["w"] (used disk) := by
  have hbelow (location : Location) (hsuffix : ["reports", "w"] <:+ location) :
      disk.node? location = none :=
    h.tree.none_below hreports hsuffix
  have hfile (name : String) {store : Store} (hstore : store ∉ searched) :
      Expected ["w"] (name :: store.directory :: ["w"]) (some (.file (octetsOf "old") false)) :=
    expected_plain hstore (Or.inr ⟨_, _, rfl⟩)
  have hreport : ∀ place node, treePlace ["w"] "a" <:+ place → Expected ["w"] place node :=
    expected_tree (by decide)
  have hmerged := h.put hprofile hstands (by simp)
    (hfile "a.profdata" (by decide : Store.mergedProfiles ∉ searched))
  have hstore := hmerged.put (by simpa [node?_put, Store.directory] using hreports)
    (by simpa [node?_put] using h.stands) (by simp) (expected_store .reports)
  have htree := hstore.put (by
    simpa [node?_put, treePlace, Store.directory] using hbelow _ ⟨["a"], rfl⟩)
    (by simp [node?_put, Store.directory]) (by simp)
    (hreport _ (some .directory) List.suffix_rfl)
  have hpage := htree.put (by
    simpa [node?_put, treePlace, Store.directory] using hbelow _ ⟨["old.html", "a"], rfl⟩)
    (by simp [node?_put, Store.directory]) (by simp)
    (hreport _ (some (.file (octetsOf "old") false)) (List.suffix_cons "old.html" _))
  exact hpage.put (by
    simpa [node?_put, Store.directory] using hbelow _ ⟨["summary.json"], rfl⟩)
    (by simp [node?_put, Store.directory]) (by simp)
    (hfile "summary.json" (by decide : Store.reports ∉ searched))

/-- It differs from what it was in what was left there. -/
lemma differ_used (hlink : ∀ location, disk.NoLink location) (hmounts : disk.mounts = []) :
    DifferInLeftovers workspace ["w"] disk (used disk) where
  left := h
  right := settled_used h hstands hprofile hreports
  here := rfl
  node location hnot := by
    have hplaces : ∀ place ∈ [["a.profdata", "merged-profiles", "w"], ["reports", "w"],
        ["a", "reports", "w"], ["old.html", "a", "reports", "w"],
        ["summary.json", "reports", "w"]], Leftover ["w"] place := by
      unfold Leftover
      decide
    have hne (place : Location) (hplace : place ∈ _) : location ≠ place := fun heq =>
      hnot (heq ▸ hplaces place hplace)
    unfold used
    rw [node?_put_of_ne _ _ (hne _ (by simp)), node?_put_of_ne _ _ (hne _ (by simp)),
      node?_put_of_ne _ _ (hne _ (by simp)), node?_put_of_ne _ _ (hne _ (by simp)),
      node?_put_of_ne _ _ (hne _ (by simp))]
  samples location _ := hlink location
  trees made hmade := by
    have hclear : disk.node? (treePlace ["w"] made) = none :=
      h.tree.none_below hreports (List.suffix_cons _ _)
    have hrecord : made ≠ "summary.json" := by
      rintro rfl
      exact hmade (by decide)
    rw [List.forall_mem_cons, List.forall_mem_singleton]
    refine ⟨Or.inl hclear, ?_⟩
    by_cases ha : made = "a"
    · subst ha
      exact Or.inr (by simp [used, node?_put, Store.directory])
    · refine Or.inl ?_
      simpa [used, node?_put, Store.directory, ha, hrecord] using hclear
  free := by
    have hused : (used disk).mounts = disk.mounts := rfl
    simp [hused, hmounts]

end Used

lemma ends_groups_freshWorld : Ends profilePipeline.workspace.groups freshWorld
    (.ok [rawGroup "a"]) freshWorld :=
  ends_groups_of_samples ["a"] (by decide +kernel) (by decide +kernel) (by decide +kernel)

/-- A profile, a report and a record of an earlier run make no difference. -/
theorem report_reproduces_used : ∃ r after after' calls,
    Ends (profilePipeline.report (Tool.strict Tool.suite) []) freshWorld r after ∧
      Ends (profilePipeline.report (Tool.strict Tool.suite) [])
        { freshWorld with disk := used freshWorld.disk } r after' ∧
      Reproduced profilePipeline [] ["w"] [rawGroup "a"] calls after.disk after'.disk := by
  have hnamed : freshWorld.disk.Named := named_of_entries (by decide +kernel)
  have hinputs : DifferInLeftovers profilePipeline.workspace ["w"] freshWorld.disk
      (used freshWorld.disk) :=
    differ_used settled_freshWorld (by decide +kernel) (by decide +kernel) (by decide +kernel)
      (noLink_of_linkCount (by decide +kernel)) rfl
  have hmerges : (Tool.strict Tool.suite).Merges profilePipeline.toolchain.llvmProfdata
      profilePipeline.settings.mergeArguments :=
    Tool.merges_strict (Tool.merges_suite "llvm-profdata-17")
  have hrenders : (Tool.strict Tool.suite).Renders profilePipeline.toolchain.llvmCov
      (profilePipeline.settings.reportArguments ++ []) :=
    Tool.renders_strict (Tool.renders_suite "llvm-cov-17")
  have hplace : ∀ group ∈ [rawGroup "a"], ∃ made, Placeable ["w"] group.name made := by
    simpa [rawGroup] using ⟨"a", placeable_a⟩
  obtain ⟨r, after, hend⟩ :=
    exists_ends (profilePipeline.report (Tool.strict Tool.suite) []) freshWorld
  obtain ⟨after', calls, hend', -, -, -, hsame⟩ := report_reproduces
    (v := { freshWorld with disk := used freshWorld.disk }) hinputs (Tool.orderly_strict _)
    (Tool.neat_strict Tool.neat_suite) hmerges hrenders (Tool.reproducible_suite rfl rfl)
    roomy_sample hnamed ends_groups_freshWorld hplace hend
  exact ⟨r, after, after', calls, hend, hend', hsame⟩

/-- **Behind a group with a long name, a record of an earlier run stays.**  Both runs end with a
refusal of the system before a record is written. -/
theorem not_report_reproduces_of_long_name :
    DifferInLeftovers profilePipeline.workspace ["w"] longWorld.disk (used longWorld.disk) ∧
    (Tool.strict Tool.suite).Orderly ∧ (Tool.strict Tool.suite).Neat ∧
    (Tool.strict Tool.suite).Reproducible profilePipeline ["w"] [] ∧ Roomy ["w"] ∧
    (∀ name ∈ [longName, "b"], Artifact.directoryName name = .ok name ∧
      name ∉ [reportRecord, reportDocument]) ∧
    Ends profilePipeline.workspace.groups longWorld
      (.ok [rawGroup longName, rawGroup "b"]) longWorld ∧
    ∃ after after',
      Ends (profilePipeline.report (Tool.strict Tool.suite) []) longWorld
        (.error (.disk (tooLong (profilePlace ["w"] longName)))) after ∧
      Ends (profilePipeline.report (Tool.strict Tool.suite) [])
        { longWorld with disk := used longWorld.disk }
        (.error (.disk (tooLong (profilePlace ["w"] longName)))) after' ∧
      after.disk.node? (recordPlace ["w"]) = none ∧
      after'.disk.node? (recordPlace ["w"]) = some (.file (octetsOf "old") false) := by
  have hsettled : Settled profilePipeline.workspace ["w"] longWorld.disk :=
    settled_groupWorld (by decide +kernel) (by decide +kernel) (by decide +kernel)
  have hinputs : DifferInLeftovers profilePipeline.workspace ["w"] longWorld.disk
      (used longWorld.disk) :=
    differ_used hsettled (by decide +kernel) (by decide +kernel) (by decide +kernel)
      (noLink_of_linkCount (by decide +kernel)) rfl
  have hnames : ∀ name ∈ [longName, "b"], Artifact.directoryName name = .ok name ∧
      name ∉ [reportRecord, reportDocument] := by
    rw [List.forall_mem_cons, List.forall_mem_singleton]
    exact ⟨⟨directoryName_longName, by decide +kernel⟩, by decide +kernel, by decide +kernel⟩
  have hlong : TooLong (profilePlace ["w"] longName) :=
    Or.inr ⟨_, List.mem_cons_self, longName_tooLong⟩
  have hnamed : longWorld.disk.Named := named_groupWorld fun name hname =>
    Artifact.isName_directoryName (hnames name hname).1
  obtain ⟨started, hgroups, -⟩ := Twins.groups (w := longWorld)
    (v := { longWorld with disk := used longWorld.disk }) hinputs.twins hnamed
    ends_groups_longWorld
  have hmade : Artifact.directoryName (rawGroup longName).name = .ok longName :=
    directoryName_longName
  obtain ⟨after, hend, hnode, -⟩ :=
    report_refused hsettled roomy_sample hmade hlong ends_groups_longWorld
  obtain ⟨after', hend', hnode', -⟩ :=
    report_refused hinputs.right roomy_sample hmade hlong hgroups
  refine ⟨hinputs, Tool.orderly_strict _, Tool.neat_strict Tool.neat_suite,
    Tool.reproducible_suite rfl rfl, roomy_sample, hnames, ends_groups_longWorld, after, after',
    hend, hend', hnode.trans ?_, hnode'.trans ?_⟩
  · decide +kernel
  · exact node?_put_self _ _ (List.cons_ne_nil _ _)

end Samples

end WasmCoverage.Pipeline
