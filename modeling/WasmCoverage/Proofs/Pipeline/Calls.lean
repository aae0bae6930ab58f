import Mathlib.Data.List.Forall2
import WasmCoverage.Proofs.Pipeline.Lookup
import WasmCoverage.Proofs.Pipeline.Phases

/-!
# The calls of a phase

Every call of a tool is recorded, and a run adds calls to those that were made before.  `Makes`
says that it adds calls of one kind only; it is kept from step to step, so that what a phase asks
the tools for can be read off the kinds of its steps.

* A merge asks the profile tool for the groups, once for each of them and in order
  (`mergeAll_covers`).
* A report run does so and then asks the coverage tool, and nothing else (`report_calls`).
* A finalization asks the compiler, and nothing else (`makes_finalize`).

The words that were passed on stand at the end of a command, behind those that are configured.
-/

namespace WasmCoverage

/-! ## Kinds of calls -/

/-- Calls were made, all of one kind. -/
def Makes (Kind : Call → Prop) (before after : World) : Prop :=
  ∃ calls, after.calls = before.calls ++ calls ∧ ∀ call ∈ calls, Kind call

section Makes

variable {α : Type} {Kind : Call → Prop} {w w' : World}

instance : Std.Refl (Makes Kind) :=
  ⟨fun _ => ⟨[], (List.append_nil _).symm, by simp⟩⟩

instance : IsTrans World (Makes Kind) where
  trans := by
    rintro a b c ⟨first, hfirst, hfirsts⟩ ⟨second, hsecond, hseconds⟩
    refine ⟨first ++ second, by rw [hsecond, hfirst, List.append_assoc], fun call hcall => ?_⟩
    exact (List.mem_append.1 hcall).elim (hfirsts call) (hseconds call)

/-- No calls are made if they would be of no kind. -/
lemma Makes.calls_eq (h : Makes (fun _ => False) w w') : w'.calls = w.calls := by
  obtain ⟨calls, hcalls, hnone⟩ := h
  rw [hcalls, List.eq_nil_iff_forall_not_mem.2 hnone, List.append_nil]

lemma Makes.of_quiet (h : Pipeline.Quiet w w') : Makes Kind w w' :=
  ⟨[], h.trans (List.append_nil _).symm, by simp⟩

lemma Makes.of_onlyDisk {x : Run α} (h : Pipeline.OnlyDisk x) : Respects (Makes Kind) x :=
  h.quiet.mono Makes.of_quiet

lemma makes_journal (author : Author) (level : LogLevel) (message : String) :
    Respects (Makes Kind) (journal author level message) := by
  intro w r w' h
  obtain ⟨-, rfl⟩ := ends_modify.1 h
  exact Makes.of_quiet rfl

/-- **A call is made**, whatever the tool answers. -/
theorem makes_call {request : Call} (tools : Toolbox) (h : Kind request) :
    Respects (Makes Kind) (call tools request) := by
  intro w r w' hend
  obtain ⟨-, rfl⟩ := ends_call.1 hend
  exact ⟨[request], rfl, by simpa using h⟩

lemma makes_onDisk (action : Disk.Action α) : Respects (Makes Kind) (onDisk action) :=
  Makes.of_onlyDisk (Pipeline.OnlyDisk.onDisk action)

lemma makes_onDiskOr (reword : Disk.Error → Fault) (action : Disk.Action α) :
    Respects (Makes Kind) (onDiskOr reword action) :=
  Makes.of_onlyDisk (Pipeline.OnlyDisk.onDiskOr reword action)

lemma makes_pairing (path : Path) : Respects (Makes Kind) (pairing path) := by
  unfold pairing
  split
  · exact Respects.throw _
  · refine (makes_onDisk _).bind fun there => ?_
    cases there <;> exact Respects.pure _

lemma makes_isInstrumented (forbidden : Forbidden) (marker : Text.Octets) (path : Path) :
    Respects (Makes Kind) (isInstrumented forbidden marker path) := by
  rw [isInstrumented_eq]
  split
  · exact Respects.throw _
  · refine ((makes_onDisk _).bind fun _ => Respects.pure _).tryCatch fun fault => ?_
    split
    · exact (makes_journal _ _ _).bind fun _ => Respects.pure _
    · exact Respects.throw _

lemma makes_modulesAmong (forbidden : Forbidden) (marker : Text.Octets) : ∀ paths : List Path,
    Respects (Makes Kind) (modulesAmong forbidden marker paths)
  | [] => Respects.pure _
  | path :: rest => by
      refine (makes_isInstrumented forbidden marker path).bind fun instrumented => ?_
      have hrest := makes_modulesAmong forbidden marker rest
      cases instrumented with
      | true => exact (makes_pairing path).bind fun _ => hrest.bind fun _ => Respects.pure _
      | false => exact hrest

/-- A search calls no tool. -/
theorem makes_discover (root : Path) (marker : Text.Octets) (forbidden : Forbidden) :
    Respects (Makes Kind) (discover root marker forbidden) := by
  have hsearch : Respects (Makes Kind) (do
      let base ← onDisk (Disk.resolve root)
      let found ← onDiskOr (fun error => .scan (.failed base error)) (Disk.candidates base)
      modulesAmong forbidden marker found) :=
    (makes_onDisk _).bind fun _ => (makes_onDiskOr _ _).bind fun found =>
      makes_modulesAmong forbidden marker found
  refine (makes_onDisk _).bind fun there => ?_
  cases there
  · exact (Respects.throw _).bind fun _ => hsearch
  · exact hsearch

lemma makes_neutralizeFile (source target : Path) :
    Respects (Makes Kind) (Ir.neutralizeFile source target) := by
  refine (makes_onDiskOr _ _).bind fun octets => ?_
  split
  · exact Respects.throw _
  · exact (makes_onDiskOr _ _).bind fun _ => Respects.pure _

end Makes

namespace Pipeline

open WasmCoverage.Workspace

variable {pipeline : Pipeline} {tools : Toolbox} {extra : List String} {groups : List Group}
  {Kind : Call → Prop} {w w' : World}

lemma makes_note (level : LogLevel) (message : String) :
    Respects (Makes Kind) (note level message) :=
  makes_journal _ _ _

/-! ## Finalization -/

/-- The compiler is asked for an object. -/
def CompileCall (pipeline : Pipeline) (call : Call) : Prop :=
  ∃ ir object, call = ⟨false, Tool.compileCommand pipeline.toolchain.clang ir object
    pipeline.settings.build.targetTriple, none⟩

lemma makes_stage (module ir stagedIr object copy : Path) :
    Respects (Makes pipeline.CompileCall) (pipeline.stage tools module ir stagedIr object copy) :=
  (makes_neutralizeFile _ _).bind fun _ => (makes_note _ _).bind fun _ =>
    ((makes_onDisk _).bind fun _ => (makes_call tools ⟨_, _, rfl⟩).bind fun _ =>
      Respects.pure _).bind fun _ => (makes_onDisk _).bind fun _ => Respects.pure _

lemma makes_finalizeModule (staging : Path) (m : Module) :
    Respects (Makes pipeline.CompileCall) (pipeline.finalizeModule tools staging m) := by
  refine (makes_note _ _).bind fun _ => ?_
  split
  · rw [processModule_eq]
    refine ((makes_stage _ _ _ _ _).bind fun _ => Respects.pure _).tryCatch fun fault => ?_
    split
    · exact (makes_note _ _).bind fun _ => (makes_onDisk _).bind fun _ => Respects.pure _
    · exact Respects.throw _
  · exact (makes_note _ _).bind fun _ => Respects.pure _

lemma makes_searchRoot (staging : Path) (buildRoot : Option Path) :
    Respects (Makes Kind) (searchRoot staging buildRoot) := by
  cases buildRoot with
  | some path => exact makes_onDisk _
  | none => exact Respects.pure _

lemma makes_placeIn (directory : Path) : Respects (Makes Kind) (placeIn directory) :=
  (Respects.get.bind fun _ => Respects.pure _).bind fun _ => Respects.pure _

lemma makes_judge (staging : Path) (summary : FinalizeSummary) :
    Respects (Makes Kind) (judge staging summary) := by
  refine (makes_placeIn _).bind fun _ => Respects.get.bind fun _ =>
    (makes_onDisk _).bind fun _ => ?_
  have hnoted : Respects (Makes Kind) (do
      note .info ("Processed files have been saved to " ++ staging.text)
      return summary) := (makes_note _ _).bind fun _ => Respects.pure _
  split
  · exact (Respects.throw _).bind fun _ => hnoted
  · exact hnoted

/-- **A finalization asks the compiler for objects**, and no other tool for anything. -/
theorem makes_finalize (buildRoot : Option Path) (forbidden : Forbidden) :
    Respects (Makes pipeline.CompileCall) (pipeline.finalize tools buildRoot forbidden) := by
  rw [finalize_eq_batch]
  have hfind : Respects (Makes pipeline.CompileCall)
      (pipeline.findModules buildRoot forbidden) :=
    (Makes.of_onlyDisk (OnlyDisk.store _)).bind fun _ => (makes_searchRoot _ _).bind fun _ =>
      (makes_discover _ _ _).bind fun _ => (makes_note _ _).bind fun _ => Respects.pure _
  exact (hfind.bind fun _ => (Respects.mapM fun m _ => makes_finalizeModule _ m).bind fun _ =>
    Respects.pure _).bind fun _ => makes_judge _ _

/-! ## Merging -/

/-- The tool is called for the samples of a group, each once, in some order. -/
def MergeCall (pipeline : Pipeline) (extra : List String) (group : Group) (call : Call) : Prop :=
  ∃ (profile : Path) (inputs : List String), inputs.Perm (group.samples.map Path.text) ∧
    call = ⟨false, [pipeline.toolchain.llvmProfdata, "merge", "-sparse"] ++ inputs ++
      ["-o", profile.text] ++ extra, none⟩

/-- Calls for the groups, one for each of them in order, as far as they came. -/
def Covers (pipeline : Pipeline) (extra : List String) (groups : List Group) (calls : List Call) :
    Prop :=
  ∃ called, called <+: groups ∧ List.Forall₂ (pipeline.MergeCall extra) called calls

/-- What an outcome says about how many samples there are. -/
def counted (outcome : MergeOutcome) : LooseText × Int :=
  (outcome.name, outcome.sampleCount)

/-- What there is to say about a group. -/
def countOf (group : Group) : LooseText × Int :=
  (group.name, group.samples.length)

lemma mergeCall_mergeCommand (pipeline : Pipeline) (extra : List String) (group : Group)
    (profile : Path) :
    pipeline.MergeCall extra group ⟨false, Tool.mergeCommand pipeline.toolchain.llvmProfdata
      group.samples profile extra, none⟩ :=
  ⟨profile, Tool.mergeInputs group.samples, List.mergeSort_perm _ _, rfl⟩

/-- The group was answered after one call for it. -/
structure Answered (pipeline : Pipeline) (extra : List String) (w : World) (group : Group)
    (outcome : MergeOutcome) (w' : World) : Prop where
  counted : counted outcome = countOf group
  called : ∃ call, pipeline.MergeCall extra group call ∧ w'.calls = w.calls ++ [call]

/-- **A step of a merge calls the tool for its group** once, unless it fails before that. -/
theorem mergeGroup_called {group : Group} (hsamples : group.samples ≠ [])
    {r : Except Fault MergeOutcome} (h : Ends (pipeline.mergeGroup tools extra group) w r w') :
    (∃ outcome, r = .ok outcome ∧ pipeline.Answered extra w group outcome w') ∨
      ∃ fault, r = .error fault ∧ (Quiet w w' ∨
        ∃ call, pipeline.MergeCall extra group call ∧ w'.calls = w.calls ++ [call]) := by
  rw [mergeGroup_eq] at h
  rcases ends_bind.1 h with ⟨profile, t, hprepare, hattempt⟩ | ⟨fault, hprepare, rfl⟩
  swap
  · exact Or.inr ⟨fault, rfl, Or.inl (quiet_prepare _ _ _ _ hprepare)⟩
  have hprepared : t.calls = w.calls := quiet_prepare _ _ _ _ hprepare
  have hcall := pipeline.mergeCall_mergeCommand extra group profile
  rcases attempt_ends hattempt with ⟨path, t', rfl, hmerge, hquiet, -⟩ |
    ⟨failure, t', hmerge, hquiet, hhandled⟩ | ⟨fault, rfl, -, hmerge⟩
  · rcases mergeProfiles_ends hsamples hmerge with ⟨_, hr, -⟩ | ⟨called, -, -, hcalls, -⟩
    · cases hr
    · exact Or.inl ⟨_, rfl, rfl, _, hcall, by rw [hquiet, hcalls, hprepared]⟩
  · rcases mergeProfiles_ends hsamples hmerge with ⟨_, hr, -⟩ | ⟨called, -, -, hcalls, -⟩
    · cases hr
    -- the call was made, and what follows makes no other
    rcases hhandled with ⟨rfl, -⟩ | ⟨error, rfl, -⟩
    · exact Or.inl ⟨_, rfl, rfl, _, hcall, by rw [hquiet, hcalls, hprepared]⟩
    · exact Or.inr ⟨_, rfl, Or.inr ⟨_, hcall, by rw [hquiet, hcalls, hprepared]⟩⟩
  · rcases mergeProfiles_ends hsamples hmerge with ⟨_, -, hquiet, -⟩ | ⟨called, -, -, hcalls, -⟩
    · exact Or.inr ⟨_, rfl, Or.inl (hquiet.trans hprepared)⟩
    · exact Or.inr ⟨_, rfl, Or.inr ⟨_, hcall, by rw [hcalls, hprepared]⟩⟩

/-- Groups that were answered one after another. -/
lemma answered_trace {answers : List MergeOutcome}
    (h : Trace (pipeline.Answered extra) w groups answers w') :
    answers.map counted = groups.map countOf ∧ ∃ calls, w'.calls = w.calls ++ calls ∧
      List.Forall₂ (pipeline.MergeCall extra) groups calls := by
  induction h with
  | nil w => exact ⟨rfl, [], (List.append_nil _).symm, .nil⟩
  | cons head tail ih =>
    obtain ⟨hcounted, calls, hcalls, hall⟩ := ih
    obtain ⟨call, hcall, hcalled⟩ := head.called
    refine ⟨by rw [List.map_cons, List.map_cons, head.counted, hcounted], call :: calls, ?_,
      .cons hcall hall⟩
    rw [hcalls, hcalled, List.append_assoc, List.singleton_append]

/-- **A merge of all samples calls the tool for the groups**, and counts their samples. -/
theorem mergeAll_covers {t : World} (hgroups : Ends pipeline.workspace.groups w (.ok groups) t)
    {r : Except Fault (List MergeOutcome)} (h : Ends (pipeline.mergeAll tools extra) w r w') :
    ∃ calls, w'.calls = w.calls ++ calls ∧
      pipeline.Covers (pipeline.settings.mergeArguments ++ extra) groups calls ∧
      ∀ outcomes, r = .ok outcomes →
        calls.length = groups.length ∧ outcomes.map counted = groups.map countOf := by
  have hquiet : t.calls = w.calls := by
    obtain ⟨samples, u, hstore, hrest⟩ := ends_bind_ok.1 hgroups
    have hstored : u.calls = w.calls := (OnlyDisk.store _).quiet _ _ _ hstore
    have hlisted : t.calls = u.calls := (OnlyDisk.onDisk _).quiet _ _ _ hrest
    exact hlisted.trans hstored
  rcases ends_bind.1 h with ⟨found, u, hfound, hrest⟩ | ⟨fault, hfound, -⟩
  swap
  · cases (hfound.unique hgroups).1
  obtain ⟨heq, rfl⟩ := hfound.unique hgroups
  obtain rfl := Except.ok.inj heq
  have hstep : ∀ group ∈ found, ∀ w r w', Ends (pipeline.mergeGroup tools
      (pipeline.settings.mergeArguments ++ extra) group) w r w' → _ := fun group hgroup w r w' =>
    mergeGroup_called (mem_groups hgroups hgroup).choose_spec.2
  rcases trace_of_ends_mapM hstep hrest with ⟨answers, rfl, htrace⟩ |
    ⟨before, group, behind, answers, fault, v, rfl, rfl, htrace, hstop⟩
  · obtain ⟨hcounted, calls, hcalls, hall⟩ := answered_trace htrace
    refine ⟨calls, by rw [hcalls, hquiet], ⟨found, List.prefix_refl _, hall⟩, fun outcomes ho => ?_⟩
    obtain rfl := Except.ok.inj ho
    exact ⟨hall.length_eq.symm, hcounted⟩
  · obtain ⟨-, calls, hcalls, hall⟩ := answered_trace htrace
    rcases hstop with hstopped | ⟨call, hcall, hcalled⟩
    · refine ⟨calls, ?_, ⟨before, List.prefix_append _ _, hall⟩, by simp⟩
      rw [hstopped, hcalls, hquiet]
    · refine ⟨calls ++ [call], ?_,
        ⟨before ++ [group], ?_, List.rel_append hall (.cons hcall .nil)⟩, by simp⟩
      · rw [hcalled, hcalls, hquiet, List.append_assoc]
      · exact ⟨behind, by simp⟩

/-! ## Reporting -/

/-- The coverage tool is asked for a report. -/
def ReportCall (pipeline : Pipeline) (extra : List String) (call : Call) : Prop :=
  ∃ profile object directory, call = pipeline.showCall extra profile object directory

lemma makes_render (profile object directory : Path) :
    Respects (Makes (pipeline.ReportCall extra))
      (pipeline.render tools profile object directory extra) := by
  rw [render_eq]
  refine Respects.bind ?_ fun _ => ((makes_call tools ⟨_, _, _, rfl⟩).bind fun _ =>
    Respects.pure _).bind fun _ => Respects.pure _
  refine (makes_onDisk _).bind fun there => ?_
  split
  · exact makes_onDisk _
  · exact Respects.pure _

lemma makes_reportOne (merged : MergeOutcome) :
    Respects (Makes (pipeline.ReportCall extra)) (pipeline.reportOne tools extra merged) := by
  have hstore (store : Store) :
      Respects (Makes (pipeline.ReportCall extra)) (pipeline.workspace.store store) :=
    Makes.of_onlyDisk (OnlyDisk.store store)
  unfold reportOne
  split
  · refine (makes_note _ _).bind fun _ =>
      (Makes.of_onlyDisk (onlyDisk_findObject _)).bind fun found => ?_
    split
    · rw [reportObject_eq]
      refine (Makes.of_onlyDisk (onlyDisk_reportDirectory _)).bind fun directory =>
        ((makes_render _ _ _).bind fun _ => (makes_note _ _).bind fun _ =>
          Respects.pure _).tryCatch fun fault => ?_
      split
      · exact (makes_note _ _).bind fun _ => Respects.pure _
      · exact Respects.throw _
    · exact (hstore _).bind fun _ => (hstore _).bind fun _ => (makes_note _ _).bind fun _ =>
        Respects.pure _
  · exact Respects.pure _

lemma makes_conclude (summary : ReportSummary) :
    Respects (Makes Kind) (pipeline.conclude summary) := by
  have hstore (store : Store) : Respects (Makes Kind) (pipeline.workspace.store store) :=
    Makes.of_onlyDisk (OnlyDisk.store store)
  exact ((hstore _).bind fun _ => (makes_onDisk _).bind fun _ => (makes_placeIn _).bind fun _ =>
    Respects.get.bind fun _ => makes_onDisk _).bind fun _ =>
      respects_concluding (hstore _) makes_note summary

/-- **A report run merges all samples**, without the words that are passed on, and then asks the
coverage tool for reports. -/
theorem report_calls {r : Except Fault ReportSummary}
    (h : Ends (pipeline.report tools extra) w r w') : ∃ merged t,
    Ends (pipeline.mergeAll tools []) w merged t ∧
      Makes (pipeline.ReportCall (pipeline.settings.reportArguments ++ extra)) t w' ∧
      ∀ summary, r = .ok summary → merged = .ok summary.merges := by
  rcases ends_bind.1 h with ⟨merges, t, hmerges, hrest⟩ | ⟨fault, hmerges, rfl⟩
  · refine ⟨_, t, hmerges, ?_, fun summary hr => ?_⟩
    · exact ((Respects.mapM fun merged _ => makes_reportOne merged).bind fun reports =>
        makes_conclude ⟨merges, reports⟩) _ _ _ hrest
    · subst hr
      obtain ⟨reports, u, -, hlast⟩ := ends_bind_ok.1 hrest
      rw [eq_of_concluding hlast]
  · exact ⟨_, w', hmerges, refl_of _ w', by simp⟩

end Pipeline

end WasmCoverage
