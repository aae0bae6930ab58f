import WasmCoverage.Proofs.Disk.Level
import WasmCoverage.Proofs.Pipeline.Rendering
import WasmCoverage.Proofs.Tool.Neat

/-!
# Tools that go by their inputs

What the tools of `Tool.suite` answer goes by the content of the files that they are given: a
profile is its samples joined (`goesBy_joiner`), and a report is the same page for every profile
(`goesBy_page`).  If the system refuses what they do, that is no failure of a tool; `strict` makes
it one, and then they are tools that a report run can be repeated with (`reproducible_suite`).
-/

namespace WasmCoverage.Tool

open WasmCoverage.Disk WasmCoverage.Text WasmCoverage.Workspace WasmCoverage.Pipeline

variable {tools : Toolbox} {inputs : List Path} {workspace : Workspace} {root : Location}
  {store : Store} {name made tool : String} {request : Call} {disk other : Disk}

/-! ## Failures of tools -/

/-- Whatever goes wrong in a tool is a failure of the tool. -/
def strict (tools : Toolbox) : Toolbox := fun calls request disk =>
  { tools calls request disk with
    outcome := (tools calls request disk).outcome.mapError fun fault =>
      .tool ⟨request.argv, 1, fault.message⟩ }

lemma orderly_strict (tools : Toolbox) : (strict tools).Orderly := by
  intro calls request disk fault h
  cases houtcome : (tools calls request disk).outcome with
  | ok output => simp [strict, houtcome, Except.mapError] at h
  | error other =>
    rw [strict, houtcome] at h
    exact ⟨_, (Except.error.inj h).symm⟩

lemma neat_strict (h : tools.Neat) : (strict tools).Neat :=
  ⟨h.distinct, h.links⟩

lemma merges_strict {extra : List String} (h : tools.Merges tool extra) :
    (strict tools).Merges tool extra :=
  h

lemma renders_strict {extra : List String} (h : tools.Renders tool extra) :
    (strict tools).Renders tool extra :=
  h

lemma goesBy_strict (h : tools.GoesBy inputs workspace root store name request) :
    (strict tools).GoesBy inputs workspace root store name request := by
  intro calls calls' disk other hsame hvacant hvacant' hinputs
  obtain ⟨houtcome, hnode⟩ := h calls calls' disk other hsame hvacant hvacant' hinputs
  exact ⟨congrArg (Except.mapError _) houtcome, hnode⟩

/-! ## Answers -/

/-- Actions that are paired are answered alike. -/
lemma answer_paired {R : Disk → Disk → Prop} {action : Action Unit}
    (h : Paired R action action disk other) :
    (answer action other).outcome = (answer action disk).outcome ∧
      R (answer action disk).disk (answer action other).disk := by
  obtain ⟨r, after, hend⟩ := exists_ends action disk
  obtain ⟨after', hend', hrelated⟩ := h r after hend
  have hrun : action.run.run disk = (r, after) := hend
  have hrun' : action.run.run other = (r, after') := hend'
  rw [answer, answer, hrun, hrun']
  cases r with
  | ok _ => exact ⟨rfl, hrelated⟩
  | error _ => exact ⟨rfl, hrelated⟩

/-- The same samples are joined to the same. -/
lemma joined_eq {samples : List Path} (h : ∀ sample ∈ samples,
      sample.Proper ∧ other.content? sample = disk.content? sample) :
    joined samples other = joined samples disk := by
  unfold joined
  refine congrArg List.flatten (List.filterMap_congr fun input hinput => ?_)
  rw [mergeInputs, List.mem_mergeSort, List.mem_map] at hinput
  obtain ⟨sample, hsample, rfl⟩ := hinput
  rw [Path.ofText_text (h sample hsample).1, (h sample hsample).2]

/-- **The profiles of the joiner go by the samples.** -/
theorem goesBy_joiner (hmade : Artifact.directoryName name = .ok made) (samples : List Path) :
    joiner.GoesBy samples workspace root .mergedProfiles (made ++ mergedSuffix)
      ⟨false, mergeCommand tool samples (pathOf (profilePlace root made)) [], none⟩ := by
  intro calls calls' disk other hsame hvacant hvacant' hinputs
  have hproper := proper_pathOf (hsame.left.profile_place hmade).2
  have hlevel := level_of_vacant hsame.left.tree hsame.right.tree hvacant.stands hvacant'.stands
    hvacant.clear hvacant'.clear
  change (joiner.merging tool [] calls' samples _ other).outcome =
      (joiner.merging tool [] calls samples _ disk).outcome ∧ ∀ location, _ →
    (joiner.merging tool [] calls' samples _ other).disk.node? location =
      (joiner.merging tool [] calls samples _ disk).disk.node? location
  rw [merging_joiner tool calls samples disk hproper,
    merging_joiner tool calls' samples other hproper, joined_eq hinputs]
  split
  · exact ⟨rfl, hlevel.same⟩
  · obtain ⟨houtcome, hafter⟩ := answer_paired (hlevel.acts (acts_write _ _ (joined samples disk))
      List.suffix_rfl (hsame.left.entry_profile hvacant.stands hmade)
      (hsame.right.entry_profile hvacant'.stands hmade))
    exact ⟨houtcome, hafter.same⟩

/-- **The reports of the suite go by nothing at all.** -/
theorem goesBy_page (hmade : Artifact.directoryName name = .ok made) (profile object : Path) :
    suite.GoesBy inputs workspace root .reports made
      ⟨false, showCommand tool profile object (pathOf (treePlace root made)) [], none⟩ := by
  intro calls calls' disk other hsame hvacant hvacant' _
  have hlevel := level_of_vacant hsame.left.tree hsame.right.tree hvacant.stands hvacant'.stands
    hvacant.clear hvacant'.clear
  have hentry := hsame.left.entry_tree hvacant.stands hmade
  have hproper := proper_pathOf hentry.names
  have hanswer (calls : List Call) (disk : Disk) : suite calls
      ⟨false, showCommand tool profile object (pathOf (treePlace root made)) [], none⟩ disk =
      answer (do
        makeDirectory (pathOf (treePlace root made))
        write (pathOf ("index.html" :: treePlace root made)) (octetsOf "covered")) disk := by
    simp only [suite, showCommand, List.append_nil, Path.ofText_text hproper]
    rw [child_pathOf _ (by decide)]
  have hpaired : Paired (Level made (Store.reports.directory :: root)) (do
        makeDirectory (pathOf (treePlace root made))
        write (pathOf ("index.html" :: treePlace root made)) (octetsOf "covered")) (do
        makeDirectory (pathOf (treePlace root made))
        write (pathOf ("index.html" :: treePlace root made)) (octetsOf "covered")) disk other := by
    refine (hlevel.acts (acts_makeDirectory _ _) List.suffix_rfl hentry
      (hsame.right.entry_tree hvacant'.stands hmade)).bind_of_ends fun _ disk₁ other₁ hmake h₁ => ?_
    rcases (acts_makeDirectory _ _).ends hentry hmake with ⟨-, hr, -⟩ | ⟨-, -, heq⟩
    · cases hr
    rw [hvacant.clear] at heq
    have hdir : disk₁.node? (treePlace root made) = some .directory := by
      rw [heq]
      exact node?_put_self _ _ (List.cons_ne_nil _ _)
    have hnone : disk₁.node? ("index.html" :: treePlace root made) = none := by
      rw [heq]
      exact (node?_put_of_ne _ _ (List.cons_ne_self _ _)).trans
        (hsame.left.tree.none_below hvacant.clear (List.suffix_cons _ _))
    obtain ⟨hpage, hpage'⟩ := h₁.page hdir
      (List.forall_mem_cons.2 ⟨by decide, hentry.names⟩)
      (hasNul_pathOf_cons.2 ⟨by decide, hentry.clean⟩) hnone
    exact h₁.acts (acts_write _ _ _) (List.suffix_cons _ _) hpage hpage'
  rw [hanswer, hanswer]
  obtain ⟨houtcome, hafter⟩ := answer_paired hpaired
  exact ⟨houtcome, hafter.same⟩

/-- The suite merges as the joiner does. -/
lemma goesBy_suite (hmade : Artifact.directoryName name = .ok made) (samples : List Path) :
    suite.GoesBy samples workspace root .mergedProfiles (made ++ mergedSuffix)
      ⟨false, mergeCommand tool samples (pathOf (profilePlace root made)) [], none⟩ := by
  have heq (calls : List Call) (disk : Disk) : suite calls
      ⟨false, mergeCommand tool samples (pathOf (profilePlace root made)) [], none⟩ disk =
      joiner calls ⟨false, mergeCommand tool samples (pathOf (profilePlace root made)) [], none⟩
        disk := by
    simp [suite, mergeCommand]
  intro calls calls' disk other
  rw [heq, heq]
  exact goesBy_joiner hmade samples calls calls' disk other

/-- **The suite goes by its inputs.** -/
theorem reproducible_suite {pipeline : Pipeline} (hmerge : pipeline.settings.mergeArguments = [])
    (hreport : pipeline.settings.reportArguments = []) :
    (strict suite).Reproducible pipeline root [] where
  merging samples name made hmade := by
    rw [mergingCall, hmerge]
    exact goesBy_strict (goesBy_suite hmade samples)
  rendering profile object name made hmade := by
    rw [renderingCall, showCall, hreport]
    exact goesBy_strict (goesBy_page hmade profile object)

end WasmCoverage.Tool
