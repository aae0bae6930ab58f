import WasmCoverage.Proofs.Pipeline.Calls
import WasmCoverage.Proofs.Pipeline.Containment
import WasmCoverage.Proofs.Workspace.Samples

/-!
# The history of a workspace

Samples are stored, stores are asked for, builds are finalized, samples are merged and reported, in
any order and again and again.  Whatever the clock says, whatever numbers are taken and whatever
the tools answer, as long as they write nothing but what they are asked for, no sample is lost or
counted twice (**`samples_kept`**).

The raw store is only written to where a sample is stored, and there an earlier one stays as it is;
everything else is done elsewhere.  So one operation keeps what the raw store holds and adds the
samples that it stored (`stocked_operation`), and a history does (`stocked_history`).  What the raw
store holds is what the groups are made of, and the profile tool is called for the groups
(`mergeAll_covers`).
-/

namespace WasmCoverage.Pipeline

open WasmCoverage.Disk WasmCoverage.Workspace

variable {pipeline : Pipeline} {tools : Toolbox} {extra : List String} {root : Location}
  {standing : Store → Prop} {samples : List Sample} {groups : List Group} {w w' : World}

/-! ## Finalization is done elsewhere -/

/-- The steps of a run touch nothing in the raw store. -/
lemma allows_apart : Allows root (Apart root) where
  store store _ := apart_store store
  profile _ _ node _ _ := apart_inside (by decide) (List.suffix_refl _) node

lemma apart_of_confined {location : Location} {node : Option Node}
    (h : Confined root location node) : Apart root location node := by
  refine ⟨h.place.2.2 .rawProfiles (by decide), fun heq => ?_⟩
  cases h with
  | store store => rfl
  | profile made node _ _ => exact absurd heq (fun h => by simpa using congrArg List.length h)
  | record name node _ _ => exact absurd heq (fun h => by simpa using congrArg List.length h)
  | tree made location node _ hsuffix =>
    have hlength := (heq ▸ hsuffix).length_le
    simp at hlength

section Finalizing

variable (hneat : tools.Neat) (hroot : ∀ name ∈ root, Path.IsName name)

/-- The place of an entry of the staging area. -/
abbrev stagedPlace (root : Location) (name : String) : Location :=
  name :: Store.staging.directory :: root

include hroot

lemma alters_staged {name : String} (hname : Path.IsName name) (data : Text.Octets) :
    Respects (Alters pipeline.workspace root standing (Apart root))
      (write ((pathOf (Store.staging.directory :: root)).child name) data) := by
  rw [child_pathOf _ hname]
  exact alters_write (inside_store name (by decide))
    (List.forall_mem_cons.2 ⟨hname, List.forall_mem_cons.2 ⟨isName_directory _, hroot⟩⟩)
    (fun _ _ => apart_inside (by decide) (List.suffix_refl _) _) data

include hneat

/-- The steps for a module write into the staging area. -/
lemma alters_writes
    (htools : tools.Emits pipeline.toolchain.clang pipeline.settings.build.targetTriple)
    {m : Module} (hm : m.Sound) :
    pipeline.Writes tools (pathOf (Store.staging.directory :: root)) m
      (Alters pipeline.workspace root standing (Apart root)) where
  make := alters_makeDirectories (by simp) fun _ => apart_store .staging
  write name hname data := alters_staged hroot (hm.isName_staged hname) data
  compile calls disk htidy _ := by
    have hproper : (pathOf (Store.staging.directory :: root)).Proper :=
      htidy.proper_store .staging
    have hnames : ∀ n ∈ stagedPlace root (m.name ++ objectSuffix), Path.IsName n :=
      List.forall_mem_cons.2 ⟨hm.isName_object, htidy.isName .staging⟩
    have hstays := htools.stays calls _ _ disk (hproper.child hm.isName_ir)
      (hproper.child hm.isName_object)
    rw [child_pathOf _ hm.isName_object] at hstays ⊢
    have hinside : Inside root (stagedPlace root (m.name ++ objectSuffix)) :=
      inside_store _ (by decide)
    exact htidy.altered_refiles hinside hstays
      (fun place hfind => ⟨htidy.eq_of_find hinside.managed hnames hfind,
        htidy.tree.directory_around hfind⟩) (hneat.distinct _ _ _ htidy.distinct)
      fun _ _ => apart_inside (by decide) (List.suffix_refl _) _

/-- **A finalization touches nothing in the raw store.** -/
theorem alters_finalize
    (htools : tools.Emits pipeline.toolchain.clang pipeline.settings.build.targetTriple)
    (hbound : pipeline.workspace.bound? = some (pathOf root)) (buildRoot : Option Path)
    (forbidden : Forbidden) :
    Respects (AltersBy pipeline root standing (Apart root))
      (pipeline.finalize tools buildRoot forbidden) := by
  have hread {α : Type} {run : Run α} (h : Respects (OnDisk Eq) run) :
      Respects (AltersBy pipeline root standing (Apart root)) run :=
    h.mono fun heq => Alters.of_eq heq
  have hfind : Respects (AltersBy pipeline root standing (Apart root))
      (pipeline.findModules buildRoot forbidden) :=
    (alters_managed_store (by decide) (apart_store _)).bind fun staging =>
      (hread (respects_searchRoot staging buildRoot)).bind fun path =>
        (hread (respects_discover _)).bind fun modules =>
          (respects_note _ _).bind fun _ => Respects.pure _
  simp only [finalize_eq_batch, batch, bind_assoc, pure_bind]
  refine hfind.bind_of_ends fun found w t hfound => ?_
  have hplace : found.staging = pathOf (Store.staging.directory :: root) := by
    obtain ⟨staging, u, hstaging, hrest⟩ := ends_bind_ok.1 hfound
    obtain ⟨path, u', -, hrest⟩ := ends_bind_ok.1 hrest
    obtain ⟨modules, u'', -, hlast⟩ := ends_bind_ok.1 hrest
    rw [← path_of_store hbound hstaging, Except.ok.inj (ends_pure.1 (ends_note_bind.1 hlast)).1]
  rw [hplace]
  refine Respects.bind ?_ fun outcomes => respects_judge (alters_staged hroot (by decide)) _
  exact Respects.mapM fun m hm => respects_finalizeModule ((findModules_spec hfound).2 m hm).1
    fun _ => alters_writes hneat hroot htools ((findModules_spec hfound).2 m hm).1

end Finalizing

/-! ## Operations -/

/-- What may be done with a workspace, but to reset it: a sample is stored, something is asked for,
or a phase is run. -/
inductive Operation where
  | storeSample (name : String) (data : Text.Octets)
  | store (kind : Store)
  | sampleDirectory (name : String)
  | newSamplePath (name : String)
  | mergedProfile (name : String)
  | reportDirectory (name : String)
  | groups
  | finalize (buildRoot : Option Path) (forbidden : Forbidden)
  | merge (extra : List String)
  | report (extra : List String)

/-- A run that stores no sample. -/
def storingNothing {α : Type} (run : Run α) : Run (List Sample) := do
  let _ ← run
  return []

/-- The operation as a run, which answers with the samples that it stored. -/
def Operation.run (pipeline : Pipeline) (tools : Toolbox) : Operation → Run (List Sample)
  | .storeSample name data => do
    let path ← pipeline.workspace.storeSample name data
    return [⟨name, path, data⟩]
  | .store kind => storingNothing (pipeline.workspace.store kind)
  | .sampleDirectory name => storingNothing (pipeline.workspace.sampleDirectory name)
  | .newSamplePath name => storingNothing (pipeline.workspace.newSamplePath name)
  | .mergedProfile name => storingNothing (pipeline.workspace.mergedProfile name)
  | .reportDirectory name => storingNothing (pipeline.workspace.reportDirectory name)
  | .groups => storingNothing pipeline.workspace.groups
  | .finalize buildRoot forbidden => storingNothing (pipeline.finalize tools buildRoot forbidden)
  | .merge extra => storingNothing (pipeline.merge tools extra)
  | .report extra => storingNothing (pipeline.report tools extra)

/-- In the calls of an operation the tools write nothing but the file, or the tree, that they are
asked for. -/
def Operation.Obeyed (pipeline : Pipeline) (tools : Toolbox) : Operation → Prop
  | .finalize _ _ => tools.Emits pipeline.toolchain.clang pipeline.settings.build.targetTriple
  | .merge extra => tools.Merges pipeline.toolchain.llvmProfdata
      (pipeline.settings.mergeArguments ++ extra)
  | .report extra =>
      tools.Merges pipeline.toolchain.llvmProfdata pipeline.settings.mergeArguments ∧
        tools.Renders pipeline.toolchain.llvmCov (pipeline.settings.reportArguments ++ extra)
  | _ => True

/-- The samples that a run stored. -/
def stored : Except Fault (List Sample) → List Sample
  | .ok samples => samples
  | .error _ => []

/-- What stores nothing is done as the run in it is. -/
lemma ends_storingNothing {α : Type} {run : Run α} {r : Except Fault (List Sample)}
    (h : Ends (storingNothing run) w r w') : stored r = [] ∧ ∃ r', Ends run w r' w' := by
  rcases ends_bind.1 h with ⟨a, t, hrun, hlast⟩ | ⟨fault, hrun, rfl⟩
  · obtain ⟨rfl, rfl⟩ := ends_pure.1 hlast
    exact ⟨rfl, _, hrun⟩
  · exact ⟨rfl, _, hrun⟩

section Operation

variable {operation : Operation} (hneat : tools.Neat)
  (h : pipeline.workspace.Stocked root w.disk samples)

include hneat h

/-- **What an operation does to the raw store** is to add the samples that it stored. -/
theorem stocked_operation (hobeyed : operation.Obeyed pipeline tools)
    {r : Except Fault (List Sample)} (hend : Ends (operation.run pipeline tools) w r w') :
    pipeline.workspace.Stocked root w'.disk (samples ++ stored r) := by
  -- what stores nothing only has to leave the raw store as it is
  have hnothing {α : Type} {run : Run α}
      (hrun : ∀ r', Ends run w r' w' → pipeline.workspace.Stocked root w'.disk samples)
      (hend : Ends (storingNothing run) w r w') :
      pipeline.workspace.Stocked root w'.disk (samples ++ stored r) := by
    obtain ⟨hstored, r', hends⟩ := ends_storingNothing hend
    rw [hstored, List.append_nil]
    exact hrun r' hends
  have helsewhere {α : Type} {run : Run α}
      (hrun : Respects (AltersBy pipeline root (fun _ => False) (Apart root)) run)
      (r' : Except Fault α) (hend : Ends run w r' w') :
      pipeline.workspace.Stocked root w'.disk samples :=
    h.altered ((hrun _ _ _ hend).of_tidy h.tidy)
  have hconfined (haltered : Altered pipeline.workspace root (Confined root) w.disk w'.disk) :
      pipeline.workspace.Stocked root w'.disk samples :=
    h.altered (haltered.mono fun _ _ => apart_of_confined)
  cases operation with
  | storeSample name data =>
    rcases ends_bind.1 hend with ⟨path, t, hstore, hlast⟩ | ⟨fault, hstore, rfl⟩
    · obtain ⟨rfl, rfl⟩ := ends_pure.1 hlast
      rcases h.storeSample hstore with ⟨other, heq, hstocked⟩ | ⟨fault, heq, -⟩
      · obtain rfl := Except.ok.inj heq
        exact hstocked
      · cases heq
    · rcases h.storeSample hstore with ⟨path, heq, -⟩ | ⟨-, -, hstocked⟩
      · cases heq
      · exact (List.append_nil samples).symm ▸ hstocked
  | store kind => exact hnothing (fun _ => h.store) hend
  | sampleDirectory name => exact hnothing (fun _ hrun => (h.sampleDirectory hrun).1) hend
  | newSamplePath name => exact hnothing (fun _ hrun => (h.newSamplePath hrun).1) hend
  | mergedProfile name => exact hnothing (helsewhere (alters_mergedProfile allows_apart name)) hend
  | reportDirectory name =>
    refine hnothing (helsewhere ?_) hend
    exact (alters_managed_store (by decide) (apart_store _)).bind fun _ =>
      (respects_directoryName name).bind fun _ => Respects.pure _
  | groups =>
    exact hnothing (fun _ hrun => h.altered (h.tidy.altered_groups h.holds.noLink_store
      (apart_store .rawProfiles) hrun)) hend
  | finalize buildRoot forbidden =>
    exact hnothing (helsewhere (alters_finalize hneat h.tidy.names hobeyed h.tidy.bound buildRoot
      forbidden)) hend
  | merge extra =>
    exact hnothing (fun _ hrun => hconfined (altered_merge hneat h.tidy h.holds.noLink_store
      hobeyed hrun)) hend
  | report extra =>
    exact hnothing (fun _ hrun => hconfined (altered_report hneat h.tidy h.holds.noLink_store
      hobeyed.1 hobeyed.2 hrun)) hend

end Operation

/-! ## Histories -/

/-- Operations were done one after another, and stored these samples.  In between the clock, the
numbers that were taken, or anything else but the disk may have changed. -/
inductive History (pipeline : Pipeline) (tools : Toolbox) (w : World) : List Sample → World → Prop
  | start : History pipeline tools w [] w
  | step {samples : List Sample} {t u w' : World} {operation : Operation}
      {r : Except Fault (List Sample)} (earlier : History pipeline tools w samples t)
      (later : u.disk = t.disk) (obeyed : operation.Obeyed pipeline tools)
      (run : Ends (operation.run pipeline tools) u r w') :
      History pipeline tools w (samples ++ stored r) w'

/-- A tidy workspace with a raw store that is empty, or not there yet. -/
structure Vacant (workspace : Workspace) (root : Location) (disk : Disk) : Prop
    extends workspace.Tidy root disk where
  store : disk.node? (rawStore root) = none ∨ disk.node? (rawStore root) = some .directory
  short : ¬ TooLong (rawStore root)
  empty : ∀ name, disk.node? (name :: rawStore root) = none

/-- Such a store holds no samples. -/
lemma Vacant.stocked {workspace : Workspace} {disk : Disk} (h : Vacant workspace root disk) :
    workspace.Stocked root disk [] where
  tidy := h.toTidy
  holds :=
    { store := h.store
      short := h.short
      shelved := by simp
      distinct := List.nodup_nil
      directory := fun made hthere => absurd (h.empty made) hthere
      sample := fun file made hthere => by
        have habove := h.tree file _ hthere
        rw [h.empty made] at habove
        cases habove }

/-- **A history adds samples and nothing else**, whatever it does. -/
theorem stocked_history (hneat : tools.Neat) (hvacant : Vacant pipeline.workspace root w.disk)
    (h : pipeline.History tools w samples w') :
    pipeline.workspace.Stocked root w'.disk samples := by
  induction h with
  | start => exact hvacant.stocked
  | step earlier later obeyed run ih => exact stocked_operation hneat (later ▸ ih) obeyed run

/-! ## The main result -/

/-- A merge of all samples: the tool is called for the groups that these samples are, once for each
in order as far as it comes, and if it comes to the end every outcome counts the samples of its
group. -/
structure MergedAll (pipeline : Pipeline) (tools : Toolbox) (extra : List String)
    (samples : List Sample) (w : World) (r : Except Fault (List MergeOutcome)) (w' : World) :
    Prop where
  run : Ends (pipeline.mergeAll tools extra) w r w'
  calls : ∃ groups calls, Grouped groups samples ∧ w'.calls = w.calls ++ calls ∧
    pipeline.Covers (pipeline.settings.mergeArguments ++ extra) groups calls ∧
    ∀ outcomes, r = .ok outcomes →
      calls.length = groups.length ∧ outcomes.map counted = groups.map countOf

/-- The samples are kept: each is a file of its own with its data, the groups are the samples, every
merge covers them, and a new sample is stored where nothing is, or refused. -/
structure Kept (pipeline : Pipeline) (tools : Toolbox) (w : World) (samples : List Sample) :
    Prop where
  content : ∀ sample ∈ samples, w.disk.content? sample.path = some sample.data
  distinct : (samples.map Sample.path).Nodup
  groups : ∃ groups w', Ends pipeline.workspace.groups w (.ok groups) w' ∧ Grouped groups samples
  merge : ∀ extra r w', Ends (pipeline.merge tools extra) w r w' → ∃ merged,
    pipeline.MergedAll tools extra samples w merged w' ∧
      ∀ outcomes, r = .ok outcomes → merged = .ok outcomes
  report : ∀ extra r w', Ends (pipeline.report tools extra) w r w' → ∃ merged t,
    pipeline.MergedAll tools [] samples w merged t ∧
      Makes (pipeline.ReportCall (pipeline.settings.reportArguments ++ extra)) t w' ∧
      ∀ summary, r = .ok summary → merged = .ok summary.merges
  stores : ∀ name data path t, Ends (pipeline.workspace.newSamplePath name) w (.ok path) t →
    Ends (pathExists path) t.disk (.ok false) t.disk →
    ∃ w', Ends (pipeline.workspace.storeSample name data) w (.ok path) w'
  refuses : ∀ name data path t, Ends (pipeline.workspace.newSamplePath name) w (.ok path) t →
    Ends (pathExists path) t.disk (.ok true) t.disk →
    path ∈ samples.map Sample.path ∧
      Ends (pipeline.workspace.storeSample name data) w
        (.error (.disk (.system (Cause.present.about path)))) t ∧
      ∀ sample ∈ samples, t.disk.content? sample.path = some sample.data

lemma mergedAll_of_stocked (h : pipeline.workspace.Stocked root w.disk samples)
    {r : Except Fault (List MergeOutcome)} (hend : Ends (pipeline.mergeAll tools extra) w r w') :
    pipeline.MergedAll tools extra samples w r w' := by
  obtain ⟨groups, disk, hgroups, -, hgrouped⟩ := h.groups
  obtain ⟨calls, hcalls, hcovers, hcounts⟩ := mergeAll_covers hgroups hend
  exact ⟨hend, groups, calls, hgrouped, hcalls, hcovers, hcounts⟩

/-- **No sample is lost, overwritten or counted twice.**  Whatever is done with a workspace whose
raw store was empty or missing, after every step the samples that were stored so far are kept. -/
theorem samples_kept (hneat : tools.Neat) (hvacant : Vacant pipeline.workspace root w.disk)
    (h : pipeline.History tools w samples w') : pipeline.Kept tools w' samples := by
  have hstocked := stocked_history hneat hvacant h
  refine ⟨fun sample => hstocked.content?, hstocked.holds.distinct, ?_, fun extra r t hend => ?_,
    fun extra r t hend => ?_, fun name data path t => hstocked.stores,
    fun name data path t hpath hthere => ?_⟩
  · obtain ⟨groups, disk, hgroups, -, hgrouped⟩ := hstocked.groups
    exact ⟨groups, _, hgroups, hgrouped⟩
  · rcases ends_bind.1 hend with ⟨merges, u, hmerges, hlast⟩ | ⟨fault, hmerges, rfl⟩
    · obtain ⟨rfl, rfl⟩ := hend.unique (ends_merge hmerges)
      refine ⟨_, mergedAll_of_stocked hstocked hmerges, fun outcomes houtcomes => ?_⟩
      unfold verdict at houtcomes
      split at houtcomes
      · cases houtcomes
      · exact houtcomes
    · exact ⟨_, mergedAll_of_stocked hstocked hmerges, by simp⟩
  · obtain ⟨merged, u, hmerges, hreports, hsummary⟩ := report_calls hend
    exact ⟨merged, u, mergedAll_of_stocked hstocked hmerges, hreports, hsummary⟩
  · obtain ⟨hmem, hrefused⟩ := hstocked.refused hpath hthere
    exact ⟨hmem, hrefused, fun sample => (hstocked.newSamplePath hpath).1.content?⟩

/-! ## Two names with one directory -/

/-- The samples that are stored under `a b` and `a_b`. -/
def pairOfSamples : List Sample :=
  [⟨"a b", pathOf ["20240501-000000-00000000000000000000000000000001.profraw", "a_b",
      "raw-profiles", "w"], [1]⟩,
    ⟨"a_b", pathOf ["20240501-000000-00000000000000000000000000000002.profraw", "a_b",
      "raw-profiles", "w"], [2]⟩]

/-- Samples of two names that share a directory are stored, merged and reported, and kept. -/
theorem samples_kept_pair : Tool.suite.Neat ∧
    Vacant profilePipeline.workspace ["w"] (groupWorld []).disk ∧ ∃ w',
      profilePipeline.History Tool.suite (groupWorld []) pairOfSamples w' ∧
      profilePipeline.Kept Tool.suite w' pairOfSamples := by
  have hvacant : Vacant profilePipeline.workspace ["w"] (groupWorld []).disk :=
    { settled_groupWorld (by decide +kernel) (by decide +kernel) (by decide +kernel) with
      store := Or.inr (by decide +kernel)
      short := by decide +kernel
      empty := fun name => by simp [node?, groupWorld, Table.get?] }
  have hfirst : (((Operation.storeSample "a b" [1]).run profilePipeline Tool.suite).run.run
      (groupWorld [])).1 = .ok (pairOfSamples.take 1) := by decide +kernel
  have hsecond : (((Operation.storeSample "a_b" [2]).run profilePipeline Tool.suite).run.run
      (((Operation.storeSample "a b" [1]).run profilePipeline Tool.suite).run.run
        (groupWorld [])).2).1 = .ok (pairOfSamples.drop 1) := by decide +kernel
  obtain ⟨r, w', hreport⟩ := exists_ends ((Operation.report []).run profilePipeline Tool.suite)
    (((Operation.storeSample "a_b" [2]).run profilePipeline Tool.suite).run.run
      (((Operation.storeSample "a b" [1]).run profilePipeline Tool.suite).run.run
        (groupWorld [])).2).2
  have h (name : String) (data : Text.Octets) :
      (Operation.storeSample name data).Obeyed profilePipeline Tool.suite := trivial
  have hreports : (Operation.report []).Obeyed profilePipeline Tool.suite :=
    ⟨Tool.merges_suite _, Tool.renders_suite _⟩
  have hhistory : profilePipeline.History Tool.suite (groupWorld []) pairOfSamples w' := by
    have hone := History.start.step rfl (h "a b" [1]) (ends_of_result hfirst)
    have htwo := hone.step rfl (h "a_b" [2]) (ends_of_result hsecond)
    have hthree := htwo.step rfl hreports hreport
    rwa [(ends_storingNothing hreport).1] at hthree
  exact ⟨Tool.neat_suite, hvacant, w', hhistory, samples_kept Tool.neat_suite hvacant hhistory⟩

end WasmCoverage.Pipeline
