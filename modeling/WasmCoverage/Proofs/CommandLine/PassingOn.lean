import WasmCoverage.CommandLine.Execution
import WasmCoverage.Proofs.InstrumentedBuild.Course
import WasmCoverage.Proofs.Pipeline.Calls
import WasmCoverage.Settings.Document

/-!
# Words that are passed on

Words behind the first `--` of a command line belong to the tools.  Which tools get them, and where
they stand in a command, depends on what is asked for.  **`executeComposed_asks`** says it for every
command line: the calls of a request are those that `Asked` lists for its command, or, where the
request fails, a beginning of them.  This is so with any settings that were composed, and however
they are written down.

* A build gets all words.  Where binaries or tests are run, the build gets those before the next
  `--`, and the rest is for the binaries.
* A merge and a report run put the words behind the configured ones, and a report run keeps them
  from the merges that it makes first.

What a run asks the tools for is a script here, and the scripts of its steps are put one after the
other (`Follows.bind`).
-/

namespace WasmCoverage

/-! ## Scripts -/

/-- The run makes calls as a script says: all of them, or, if it fails, a beginning of them. -/
def Follows {α : Type} (Script : List Call → Prop) (run : Run α) : Prop :=
  ∀ w r w', Ends run w r w' → ∃ all calls, Script all ∧ w'.calls = w.calls ++ calls ∧
    calls <+: all ∧ ∀ a, r = .ok a → calls = all

/-- The run calls no tool. -/
abbrev CallsNothing {α : Type} (run : Run α) : Prop :=
  Respects (Makes fun _ => False) run

section Follows

variable {α β : Type} {Script First Second : List Call → Prop} {Kind : Call → Prop} {run : Run α}

lemma Follows.mono {Other : List Call → Prop} (h : Follows Script run)
    (hother : ∀ calls, Script calls → Other calls) : Follows Other run := by
  intro w r w' hend
  obtain ⟨all, calls, hall, hrest⟩ := h w r w' hend
  exact ⟨all, calls, hother all hall, hrest⟩

/-- A run that makes calls of one kind follows every script of such calls. -/
lemma Follows.of_makes (h : Respects (Makes Kind) run) :
    Follows (fun calls => ∀ call ∈ calls, Kind call) run := by
  intro w r w' hend
  obtain ⟨calls, hcalls, hkind⟩ := h w r w' hend
  exact ⟨calls, calls, hkind, hcalls, List.prefix_refl _, fun _ _ => rfl⟩

/-- A call is a script of its own. -/
lemma follows_call (tools : Toolbox) (request : Call) :
    Follows (· = [request]) (call tools request) := by
  intro w r w' hend
  obtain ⟨-, rfl⟩ := ends_call.1 hend
  exact ⟨_, _, rfl, rfl, List.prefix_refl _, fun _ _ => rfl⟩

/-- **One script comes after the other.** -/
theorem Follows.bind {f : α → Run β} (hrun : Follows First run) (hf : ∀ a, Follows Second (f a))
    (hsome : ∃ calls, Second calls) (hboth : ∀ calls more, First calls → Second more →
      Script (calls ++ more)) : Follows Script (run >>= f) := by
  intro w r w' hend
  obtain ⟨a, t, hfirst, hsecond⟩ | ⟨fault, hfirst, rfl⟩ := ends_bind.1 hend
  · obtain ⟨all, calls, hall, hcalls, -, hdone⟩ := hrun w _ t hfirst
    obtain ⟨allMore, more, hallMore, hmore, hbeginning, hdoneMore⟩ := hf a t r w' hsecond
    obtain rfl := hdone a rfl
    refine ⟨calls ++ allMore, calls ++ more, hboth _ _ hall hallMore, ?_,
      (List.prefix_append_right_inj calls).2 hbeginning, fun b hb => ?_⟩
    · rw [hmore, hcalls, List.append_assoc]
    · rw [hdoneMore b hb]
  · obtain ⟨all, calls, hall, hcalls, hbeginning, -⟩ := hrun w _ w' hfirst
    obtain ⟨more, hmore⟩ := hsome
    exact ⟨all ++ more, calls, hboth _ _ hall hmore, hcalls,
      hbeginning.trans (List.prefix_append all more), by simp⟩

lemma Follows.of_callsNothing (h : CallsNothing run) : Follows (· = []) run := by
  intro w r w' hend
  obtain ⟨calls, hcalls, hnone⟩ := h w r w' hend
  obtain rfl := List.eq_nil_iff_forall_not_mem.2 hnone
  exact ⟨[], [], rfl, hcalls, List.prefix_refl _, fun _ _ => rfl⟩

/-- A step that calls nothing adds nothing to the script of those behind it. -/
lemma Follows.behind {f : α → Run β} (hf : ∀ a, Follows Script (f a)) (hrun : CallsNothing run)
    (hsome : ∃ calls, Script calls) : Follows Script (run >>= f) :=
  (Follows.of_callsNothing hrun).bind hf hsome fun _ _ hnone hmore => by simpa [hnone] using hmore

/-- Neither does it to the script of those before it. -/
lemma Follows.before {f : α → Run β} (hrun : Follows Script run)
    (hf : ∀ a, CallsNothing (f a)) : Follows Script (run >>= f) :=
  hrun.bind (fun a => .of_callsNothing (hf a)) ⟨[], rfl⟩ fun _ _ hcalls hnone => by
    simpa [hnone] using hcalls

end Follows

/-! ## Builds -/

namespace InstrumentedBuild

open WasmCoverage.Workspace

variable {pipeline : Pipeline} {tools : Toolbox} {arguments binaryArguments : List String}

lemma callsNothing_root (workspace : Workspace) : CallsNothing workspace.root := by
  unfold Workspace.root
  split
  · exact Respects.pure _
  · exact Respects.throw _

lemma callsNothing_environment (pipeline : Pipeline) : CallsNothing (environment pipeline) :=
  (Makes.of_onlyDisk (Pipeline.OnlyDisk.store _)).bind fun _ =>
    (callsNothing_root _).bind fun _ => Respects.pure _

lemma callsNothing_prepareTarget (pipeline : Pipeline) :
    CallsNothing (prepareTarget pipeline) :=
  (Makes.of_onlyDisk (Pipeline.OnlyDisk.store _)).bind fun _ => (makes_discover _ _ _).bind
    fun _ => (Respects.forM fun _ _ => (makes_journal _ _ _).bind fun _ => makes_onDisk _).bind
      fun _ => Respects.pure _

lemma follows_stream (tools : Toolbox) (argv : List String) (vars : Option Cargo.Environment) :
    Follows (· = [⟨true, argv, vars⟩]) (stream tools argv vars) :=
  (follows_call tools _).before fun _ => Respects.pure _

/-- **An instrumented build asks once**, with all words. -/
theorem follows_build : Follows
    (fun calls => ∃ vars, calls = [⟨true, Cargo.command "build" arguments false, some vars⟩])
    (build pipeline tools arguments) := by
  have hsome : ∃ calls, ∃ vars : Cargo.Environment,
      calls = [(⟨true, Cargo.command "build" arguments false, some vars⟩ : Call)] := ⟨_, [], rfl⟩
  refine Follows.behind (fun _ => Follows.behind (fun vars => ?_)
    (callsNothing_environment pipeline) hsome) (callsNothing_prepareTarget pipeline) hsome
  exact ((follows_stream tools _ _).mono fun _ heq => ⟨vars, heq⟩).before fun _ => Respects.pure _

/-- Binaries are built and listed by two calls, which differ in nothing but the demand for
messages. -/
lemma follows_buildExecutables (depth : Nat) (tools : Toolbox) (subcommand : String)
    (arguments : List String) (vars : Option Cargo.Environment) : Follows
    (· = [⟨true, Cargo.command subcommand (buildArguments subcommand arguments) false, vars⟩,
      ⟨false, Cargo.command subcommand (buildArguments subcommand arguments) true, vars⟩])
    (buildExecutables depth tools subcommand arguments vars) := by
  refine (follows_stream tools _ _).bind (fun _ => (follows_call tools _).before fun output => ?_)
    ⟨_, rfl⟩ (by rintro _ _ rfl rfl; rfl)
  split
  · exact Respects.pure _
  · exact Respects.throw _

/-- **Every binary gets the same words**, and the binaries are started in order. -/
lemma follows_runExecutables (vars : Cargo.Environment) : ∀ executables : List String,
    Follows (fun calls => calls = executables.map (runCall arguments vars))
      (runExecutables tools executables arguments vars)
  | [] => .of_callsNothing (Respects.pure _)
  | executable :: rest => by
      have hfirst : Follows (· = [runCall arguments vars executable])
          (runExecutable tools arguments vars executable) :=
        Follows.behind (fun _ => follows_stream tools _ _) (makes_journal _ _ _) ⟨_, rfl⟩
      exact hfirst.bind (fun _ => follows_runExecutables vars rest) ⟨_, rfl⟩
        (by rintro _ _ rfl rfl; rfl)

/-- **A run with coverage builds, lists and starts binaries**, which all get the same words. -/
theorem follows_runWithCoverage (depth : Nat) (subcommand : String) : Follows
    (fun calls => ∃ (executables : List String) (vars : Cargo.Environment),
      calls = buildCall subcommand arguments :: listingCall subcommand arguments ::
        executables.map (runCall binaryArguments vars))
    (runWithCoverage depth pipeline tools subcommand arguments binaryArguments) := by
  have hsome : ∃ calls, ∃ (executables : List String) (vars : Cargo.Environment),
      calls = executables.map (runCall binaryArguments vars) := ⟨_, [], [], rfl⟩
  have hstart (executables : List String) : Follows
      (fun calls => ∃ (executables : List String) (vars : Cargo.Environment),
        calls = executables.map (runCall binaryArguments vars)) (do
      let _ ← prepareTarget pipeline
      let vars ← environment pipeline
      runExecutables tools executables binaryArguments vars
      return executables) := by
    refine Follows.behind (fun _ => Follows.behind (fun vars => ?_)
      (callsNothing_environment pipeline) hsome) (callsNothing_prepareTarget pipeline) hsome
    exact ((follows_runExecutables vars executables).mono fun _ heq =>
      ⟨executables, vars, heq⟩).before fun _ => Respects.pure _
  refine (follows_buildExecutables depth tools _ arguments none).bind hstart hsome ?_
  rintro _ _ rfl ⟨executables, vars, rfl⟩
  exact ⟨executables, vars, rfl⟩

end InstrumentedBuild

/-! ## Merging and reporting -/

namespace Pipeline

variable {pipeline : Pipeline} {tools : Toolbox} {extra : List String}

/-- The profile tool is asked for some group. -/
def SomeMergeCall (pipeline : Pipeline) (extra : List String) (call : Call) : Prop :=
  ∃ group, pipeline.MergeCall extra group call

lemma someMergeCall_of_forall₂ {groups : List Workspace.Group} {calls : List Call}
    (h : List.Forall₂ (pipeline.MergeCall extra) groups calls) :
    ∀ call ∈ calls, pipeline.SomeMergeCall extra call := by
  induction h with
  | nil => simp
  | cons hcall _ ih => exact List.forall_mem_cons.2 ⟨⟨_, hcall⟩, ih⟩

/-- **A merge asks the profile tool**, with the words behind the configured ones. -/
theorem makes_mergeAll : Respects
    (Makes (pipeline.SomeMergeCall (pipeline.settings.mergeArguments ++ extra)))
    (pipeline.mergeAll tools extra) := by
  intro w r w' hend
  obtain ⟨groups, t, hgroups, -⟩ | ⟨fault, hgroups, -⟩ := ends_bind.1 hend
  · obtain ⟨calls, hcalls, ⟨called, -, hall⟩, -⟩ := mergeAll_covers hgroups hend
    exact ⟨calls, hcalls, someMergeCall_of_forall₂ hall⟩
  · exact ((Makes.of_onlyDisk (OnlyDisk.store _)).bind fun _ => makes_onDisk _) _ _ _ hgroups

lemma makes_merge : Respects
    (Makes (pipeline.SomeMergeCall (pipeline.settings.mergeArguments ++ extra)))
    (pipeline.merge tools extra) := by
  refine makes_mergeAll.bind fun outcomes => ?_
  split
  · exact (Respects.throw _).bind fun _ => Respects.pure _
  · exact Respects.pure _

/-- **A report run merges first**, and only its reports are asked for with the words. -/
theorem follows_report : Follows (fun calls => ∃ merges reports, calls = merges ++ reports ∧
      (∀ call ∈ merges, pipeline.SomeMergeCall pipeline.settings.mergeArguments call) ∧
      ∀ call ∈ reports, pipeline.ReportCall (pipeline.settings.reportArguments ++ extra) call)
    (pipeline.report tools extra) := by
  intro w r w' hend
  obtain ⟨merged, t, hmerge, ⟨reports, hreports, hreported⟩, -⟩ := report_calls hend
  obtain ⟨merges, hmerges, hmerged⟩ := makes_mergeAll _ _ _ hmerge
  rw [List.append_nil] at hmerged
  exact ⟨_, _, ⟨merges, reports, rfl, hmerged, hreported⟩,
    by rw [hreports, hmerges, List.append_assoc], List.prefix_refl _, fun _ _ => rfl⟩

end Pipeline

/-! ## Requests -/

namespace CommandLine

open InstrumentedBuild

variable {pipeline : Pipeline} {tools : Toolbox} {request : Request} {passed : List String}

/-- Words cut at the first separator, which there need not be. -/
def Parted (passed own rest : List String) : Prop :=
  Cargo.separator ∉ own ∧
    (passed = own ++ Cargo.separator :: rest ∨ passed = own ∧ rest = [])

/-- **Words are cut at the first separator.** -/
theorem parted_splitArguments (passed : List String) :
    Parted passed (Cargo.splitArguments passed).1 (Cargo.splitArguments passed).2 := by
  by_cases h : Cargo.separator ∈ passed
  · obtain ⟨own, rest, rfl, hown⟩ := List.eq_append_cons_of_mem h
    rw [Cargo.splitArguments_append rest hown]
    exact ⟨hown, .inl rfl⟩
  · rw [Cargo.splitArguments_of_not_mem h]
    exact ⟨h, .inr ⟨rfl, rfl⟩⟩

/-- What a request asks the tools for, when it succeeds.  Finalizing the modules of a build asks the
compiler for objects. -/
inductive Asked (pipeline : Pipeline) (passed : List String) : Verb → List Call → Prop
  /-- The build gets all words. -/
  | build {vars : Cargo.Environment} {compilations : List Call}
      (finalized : ∀ call ∈ compilations, pipeline.CompileCall call) :
      Asked pipeline passed .build (⟨true, ["cargo", "build"] ++ passed, some vars⟩ :: compilations)
  /-- The build gets the words before the next separator, and every binary those behind it. -/
  | run {own rest executables : List String} {vars : Cargo.Environment} {compilations : List Call}
      (parted : Parted passed own rest)
      (finalized : ∀ call ∈ compilations, pipeline.CompileCall call) :
      Asked pipeline passed .run (⟨true, ["cargo", "build"] ++ own, none⟩ ::
        ⟨false, ["cargo", "build", "--message-format=json"] ++ own, none⟩ ::
        executables.map (fun executable => ⟨true, executable :: rest, some vars⟩) ++ compilations)
  /-- Tests are built in the same way, and the build is told not to run them. -/
  | test {own rest executables : List String} {vars : Cargo.Environment} {compilations : List Call}
      (parted : Parted passed own rest)
      (finalized : ∀ call ∈ compilations, pipeline.CompileCall call) :
      Asked pipeline passed .test (⟨true, ["cargo", "test"] ++ own ++ ["--no-run"], none⟩ ::
        ⟨false, ["cargo", "test", "--message-format=json"] ++ own ++ ["--no-run"], none⟩ ::
        executables.map (fun executable => ⟨true, executable :: rest, some vars⟩) ++ compilations)
  /-- Nothing is passed on. -/
  | finalize {compilations : List Call}
      (finalized : ∀ call ∈ compilations, pipeline.CompileCall call) :
      Asked pipeline passed .finalize compilations
  /-- Every merge gets all words behind the configured ones. -/
  | merge {merges : List Call}
      (merged : ∀ call ∈ merges,
        pipeline.SomeMergeCall (pipeline.settings.mergeArguments ++ passed) call) :
      Asked pipeline passed .merge merges
  /-- Every report gets all words behind the configured ones, and no merge gets any of them. -/
  | report {merges reports : List Call}
      (merged : ∀ call ∈ merges, pipeline.SomeMergeCall pipeline.settings.mergeArguments call)
      (reported : ∀ call ∈ reports,
        pipeline.ReportCall (pipeline.settings.reportArguments ++ passed) call) :
      Asked pipeline passed .report (merges ++ reports)

/-- There is something to ask for, even if it is nothing. -/
lemma exists_asked {verb : Verb} (passed : List String) (hclean : verb ≠ .clean)
    (hprobe : verb ≠ .probe) : ∃ calls, Asked pipeline passed verb calls := by
  have hnone : ∀ call ∈ ([] : List Call), pipeline.CompileCall call := by simp
  have hparted := parted_splitArguments passed
  cases verb with
  | build => exact ⟨_, @Asked.build _ _ [] _ hnone⟩
  | run => exact ⟨_, @Asked.run _ _ _ _ [] [] _ hparted hnone⟩
  | test => exact ⟨_, @Asked.test _ _ _ _ [] [] _ hparted hnone⟩
  | finalize => exact ⟨_, .finalize hnone⟩
  | merge => exact ⟨[], .merge (by simp)⟩
  | report => exact ⟨_, @Asked.report _ _ [] [] (by simp) (by simp)⟩
  | clean => exact absurd rfl hclean
  | probe => exact absurd rfl hprobe

/-- Finalizing the modules of a build adds compilations to what was asked for. -/
lemma follows_finalizing {α : Type} {Script Whole : List Call → Prop} {run : Run α}
    (hrun : Follows Script run)
    (hwhole : ∀ calls compilations, Script calls →
      (∀ call ∈ compilations, pipeline.CompileCall call) → Whole (calls ++ compilations)) :
    Follows Whole (do
      let _ ← run
      let _ ← pipeline.finalize tools none nothingForbidden
      return "") :=
  hrun.bind (fun _ => (Follows.of_makes (Pipeline.makes_finalize none nothingForbidden)).before
    fun _ => Respects.pure _) ⟨[], by simp⟩ hwhole

/-- **What a request asks for.** -/
theorem follows_perform (depth : Nat) (hclean : request.verb ≠ .clean)
    (hprobe : request.verb ≠ .probe) :
    Follows (Asked pipeline request.passedOn request.verb)
      (perform depth pipeline tools request) := by
  have hparted := parted_splitArguments request.passedOn
  unfold perform
  cases hverb : request.verb with
  | build =>
    refine follows_finalizing follows_build ?_
    rintro _ compilations ⟨vars, rfl⟩ hfinalized
    exact .build hfinalized
  | run =>
    refine follows_finalizing (follows_runWithCoverage depth "run") ?_
    rintro _ compilations ⟨executables, vars, rfl⟩ hfinalized
    exact .run hparted hfinalized
  | test =>
    refine follows_finalizing (follows_runWithCoverage depth "test") ?_
    rintro _ compilations ⟨executables, vars, rfl⟩ hfinalized
    exact .test hparted hfinalized
  | finalize =>
    exact ((Follows.of_makes (Pipeline.makes_finalize _ nothingForbidden)).before fun _ =>
      Respects.pure _).mono fun _ => .finalize
  | merge =>
    exact ((Follows.of_makes Pipeline.makes_merge).before fun _ => Respects.pure _).mono
      fun _ => .merge
  | report =>
    refine (Pipeline.follows_report.before fun _ =>
      (Makes.of_onlyDisk (Pipeline.OnlyDisk.store _)).bind fun _ => Respects.pure _).mono ?_
    rintro _ ⟨merges, reports, rfl, hmerged, hreported⟩
    exact .report hmerged hreported
  | clean => exact absurd hverb hclean
  | probe => exact absurd hverb hprobe

/-- The request gets as far as its toolchain: with these settings its workspace is opened and the
tools are found. -/
def Begins (tools : Toolbox) (vars : Cargo.Environment) (request : Request) (w : World)
    (pipeline : Pipeline) (w' : World) : Prop :=
  ∃ file t, Ends (prepare request pipeline.settings vars) w (.ok (pipeline.workspace, file)) t ∧
    Ends (Toolchain.probe tools pipeline.settings.toolchain) t (.ok pipeline.toolchain) w'

/-- What a request does once its tools are found. -/
def carriedOut (write : SettingsWriter) (depth : Nat) (pipeline : Pipeline) (tools : Toolbox)
    (request : Request) : Run String := do
  keepSettings write pipeline.settings (← pipeline.workspace.root)
  perform depth pipeline tools request

/-- Writing to the file of the journal calls no tool. -/
lemma calls_of_flush {stamp : TimeStamp} {level : LogLevel} {file : Option Path}
    {position last : Nat} {w w' : World}
    (h : (flush stamp level file position).run w = (last, w')) : w'.calls = w.calls := by
  cases file <;> exact ((Prod.mk.inj h).2 ▸ rfl)

/-- The report tells of a success exactly if there is one, and the world stays as it is. -/
lemma conclude_spec {verb : Verb} {level : LogLevel} {start : Nat}
    {result : Except Fault String} {report : Report} {w w' : World}
    (h : (conclude verb level start result).run w = (report, w')) :
    w' = w ∧ (report.status = 0 ↔ ∃ out, result = .ok out) := by
  cases result with
  | ok out =>
    obtain ⟨rfl, rfl⟩ := Prod.mk.inj h
    exact ⟨rfl, fun _ => ⟨out, rfl⟩, fun _ => rfl⟩
  | error fault =>
    obtain ⟨rfl, rfl⟩ := Prod.mk.inj h
    exact ⟨rfl, (nomatch ·), fun h => nomatch h.choose_spec⟩

/-- A request whose tools are found is carried out; before and after that the journal is written to
its file. -/
lemma executeComposed_of_begins {write : SettingsWriter} {depth : Nat} {stamp : TimeStamp}
    {vars : Cargo.Environment} {report : Report} {w t w' : World} (hclean : request.verb ≠ .clean)
    (hprobe : request.verb ≠ .probe)
    (hbegins : Begins tools vars request w pipeline t)
    (hrun : (executeComposed write depth stamp tools vars request (.ok pipeline.settings)).run w =
      (report, w')) :
    ∃ u result v, u.calls = t.calls ∧
      Ends (carriedOut write depth pipeline tools request) u result v ∧ w'.calls = v.calls ∧
      (report.status = 0 ↔ ∃ out, result = .ok out) := by
  obtain ⟨file, p, hprepare, hfound⟩ := hbegins
  have hp : (prepare request pipeline.settings vars).run w =
      (.ok (pipeline.workspace, file), p) := hprepare
  have ht : (Toolchain.probe tools pipeline.settings.toolchain).run p =
      (.ok pipeline.toolchain, t) := hfound
  simp only [StateT.run, executeComposed, executeWith, bind, StateT.bind,
    get, getThe, MonadStateOf.get, StateT.get, pure, hp, ht, if_neg hclean, if_neg hprobe] at hrun
  split at hrun
  rename_i position u hbefore
  split at hrun
  rename_i result v hend
  split at hrun
  rename_i hafter
  obtain ⟨rfl, hstatus⟩ := conclude_spec hrun
  exact ⟨u, result, v, calls_of_flush hbefore, hend, calls_of_flush hafter, hstatus⟩

/-- Before anything is asked for, the settings are kept in the workspace. -/
lemma follows_carriedOut (write : SettingsWriter) (depth : Nat) (hclean : request.verb ≠ .clean)
    (hprobe : request.verb ≠ .probe) :
    Follows (Asked pipeline request.passedOn request.verb)
      (carriedOut write depth pipeline tools request) := by
  have hsome := @exists_asked pipeline _ request.passedOn hclean hprobe
  refine Follows.behind (fun root => Follows.behind (fun _ => ?_) ?_ hsome)
    (callsNothing_root _) hsome
  · exact follows_perform depth hclean hprobe
  unfold keepSettings
  split
  · exact makes_onDisk _
  · exact Respects.throw _

/-- **Words behind the first separator go to the tools as the command asks for**, whatever they are
and however often the separator is among them. -/
theorem executeComposed_asks {own : List String} {write : SettingsWriter} {depth : Nat}
    {stamp : TimeStamp} {vars : Cargo.Environment} {report : Report} {w t w' : World}
    (hown : Cargo.separator ∉ own)
    (hread : readRequest (own ++ Cargo.separator :: passed) = .ok request)
    (hclean : request.verb ≠ .clean) (hprobe : request.verb ≠ .probe)
    (hbegins : Begins tools vars request w pipeline t)
    (hrun : (executeComposed write depth stamp tools vars request (.ok pipeline.settings)).run w =
      (report, w')) :
    ∃ all calls, Asked pipeline passed request.verb all ∧ w'.calls = t.calls ++ calls ∧
      calls <+: all ∧ (report.status = 0 → calls = all) := by
  obtain ⟨u, result, v, hu, hend, hv, hstatus⟩ :=
    executeComposed_of_begins hclean hprobe hbegins hrun
  obtain ⟨all, calls, hasked, hcalls, hbeginning, hdone⟩ :=
    follows_carriedOut write depth hclean hprobe u result v hend
  rw [passedOn_append passed hown hread] at hasked
  refine ⟨all, calls, hasked, by rw [hv, hcalls, hu], hbeginning, fun hzero => ?_⟩
  obtain ⟨out, hout⟩ := hstatus.1 hzero
  exact hdone out hout

/-! ## A run with two separators -/

/-- A pipeline whose tools the settings name, under the current directory. -/
def namedPipeline : Pipeline where
  settings :=
    { toolchain := ⟨some "17", some "clang", some "llvm-profdata", some "llvm-cov", false, "wasm32"⟩
      logging := { file := none } }
  toolchain := ⟨"17", true, "clang", "llvm-profdata", "llvm-cov"⟩
  workspace := ⟨some (Disk.pathOf ["wasmcov", "w"])⟩

/-- A directory with nothing in it. -/
def emptyWorld : World where
  disk := { here := ["w"], entries := [(["w"], .directory)] }
  clock := ⟨2024, 5, 1, 0, 0, 0, 0⟩

/-- Words with a separator of their own, and one more behind it. -/
def passedWords : List String := ["-q", "--", "x", "--", "y"]

/-- A run that passes them on. -/
def runRequest : Request := { verb := .run, verbose := true, passedOn := passedWords }

/-- The workspace in the directory. -/
def openedWorld : World :=
  { emptyWorld with
    disk := { here := ["w"], entries := [(["w"], .directory), (["wasmcov", "w"], .directory)] } }

lemma ends_prepare_empty : Ends (prepare runRequest namedPipeline.settings []) emptyWorld
    (.ok (namedPipeline.workspace, none)) openedWorld := by
  have hresolve : Ends (onDisk (Disk.resolve (Disk.pathOf ["wasmcov", "w"]))) emptyWorld
      (.ok (Disk.pathOf ["wasmcov", "w"])) emptyWorld :=
    ends_onDisk_ok.2 ⟨_, Disk.ends_resolve_ok.2 ⟨⟨by decide +kernel, ["wasmcov", "w"],
      Disk.behindLinks_of_find (by decide +kernel), rfl⟩, rfl⟩, rfl⟩
  have hmake : Ends (Disk.makeDirectories (Disk.pathOf ["wasmcov", "w"])) emptyWorld.disk (.ok ())
      openedWorld.disk := by decide +kernel
  have hopen : Ends (openWorkspace runRequest namedPipeline.settings []) emptyWorld
      (.ok namedPipeline.workspace) openedWorld :=
    hresolve.bind (hresolve.bind ((ends_onDiskOr_ok.2 ⟨_, hmake, rfl⟩).bind
      (ends_pure.2 ⟨rfl, rfl⟩)))
  exact hopen.bind rfl

/-- The build gets the words up to the second separator, and the third one is for the binaries. -/
theorem executeComposed_asks_run :
    Cargo.separator ∉ ["wasmcov", "-v", "run"] ∧
    readRequest (["wasmcov", "-v", "run"] ++ Cargo.separator :: passedWords) = .ok runRequest ∧
    ∃ report w', Begins sampleTools [] runRequest emptyWorld namedPipeline openedWorld ∧
      (executeComposed Settings.document? 1000 (fun _ => "") sampleTools [] runRequest
        (.ok namedPipeline.settings)).run emptyWorld = (report, w') ∧
      ∃ all calls, Asked namedPipeline passedWords .run all ∧
        w'.calls = openedWorld.calls ++ calls ∧ calls <+: all ∧
        (report.status = 0 → calls = all) := by
  have hown : Cargo.separator ∉ ["wasmcov", "-v", "run"] := by decide
  have hread : readRequest (["wasmcov", "-v", "run"] ++ Cargo.separator :: passedWords) =
      .ok runRequest := by decide +kernel
  have hbegins : Begins sampleTools [] runRequest emptyWorld namedPipeline openedWorld :=
    ⟨none, openedWorld, ends_prepare_empty, rfl⟩
  exact ⟨hown, hread, _, _, hbegins, rfl,
    executeComposed_asks hown hread (by decide) (by decide) hbegins rfl⟩

end CommandLine

end WasmCoverage
