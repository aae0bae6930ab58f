import WasmCoverage.Proofs.Cargo.Messages
import WasmCoverage.Proofs.InstrumentedBuild.Clearing
import WasmCoverage.Proofs.Pipeline.Merge

/-!
# The course of a run with coverage

Binaries are built and listed, then the staging area is cleared, then the binaries are run one after
another.  **`runWithCoverage_course`** tells what a run does up to the point where it fails, for any
tools: which calls it makes in which worlds, with which variables, and what it removes in between.

* The two calls of the build tool come first and set no variables.  If one of them fails, nothing
  was done but these calls.
* Exactly the stale modules are removed then, before the first binary is started.
* Binaries are started in the order in which they were listed, up to the first that fails, and only
  they see the variables of an instrumented build (`mem_coverageVariables_iff`).

`RunCourse.calls_eq` is what that makes of the calls: the build tool's come first, and those of the
binaries behind them.
-/

namespace WasmCoverage.InstrumentedBuild

open WasmCoverage.Disk WasmCoverage.Workspace

variable {depth : Nat} {pipeline : Pipeline} {tools : Toolbox} {subcommand : String}
  {arguments binaryArguments executables : List String} {vars : Cargo.Environment}
  {root : Location} {w w' t : World}

/-! ## Running binaries -/

section Starting

variable (tools : Toolbox) (arguments : List String) (vars : Cargo.Environment)

/-- The call of a binary. -/
def runCall (executable : String) : Call :=
  ⟨true, executable :: arguments, some vars⟩

/-- The world in which a binary is called: the journal tells that it is. -/
def announced (w : World) (executable : String) : World :=
  { w with journal := w.journal ++ [⟨.info, .build, "Running binary: " ++ executable⟩] }

/-- What became of a binary. -/
def ranWith (w : World) (executable : String) : Except Fault String :=
  ((announced w executable).response tools (runCall arguments vars executable)).outcome

/-- The world after a binary was started. -/
def afterRun (w : World) (executable : String) : World :=
  (announced w executable).answered tools (runCall arguments vars executable)

/-- The world after binaries were started one after another. -/
def afterRuns (w : World) (executables : List String) : World :=
  executables.foldl (afterRun tools arguments vars) w

/-- Every binary succeeds when those before it were run. -/
def Succeed (w : World) (executables : List String) : Prop :=
  ∀ before executable behind, executables = before ++ executable :: behind →
    ∃ told, ranWith tools arguments vars (afterRuns tools arguments vars w before) executable =
      .ok told

/-- **A call is made for every binary**, in order. -/
theorem calls_afterRuns (executables : List String) : ∀ w : World,
    (afterRuns tools arguments vars w executables).calls =
      w.calls ++ executables.map (runCall arguments vars) := by
  induction executables with
  | nil => intro w; simp [afterRuns]
  | cons executable rest ih =>
    intro w
    rw [afterRuns, List.foldl_cons, ← afterRuns, ih]
    simp [afterRun, announced, World.answered]

variable {tools arguments vars}

lemma Succeed.cons {executable told : String} {rest : List String}
    (h : ranWith tools arguments vars w executable = .ok told)
    (hrest : Succeed tools arguments vars (afterRun tools arguments vars w executable) rest) :
    Succeed tools arguments vars w (executable :: rest) := by
  rintro (_ | ⟨first, before⟩) other behind heq
  · obtain ⟨rfl, rfl⟩ := List.cons.inj heq
    exact ⟨told, h⟩
  · obtain ⟨rfl, rfl⟩ := List.cons.inj heq
    exact hrest before other behind rfl

lemma succeed_nil : Succeed tools arguments vars w [] := by
  intro before executable behind heq
  simp at heq

/-- A binary succeeds, or it fails and its failure is passed on. -/
lemma ends_runExecutable {executable : String} {r : Except Fault Unit}
    (h : Ends (runExecutable tools arguments vars executable) w r w') :
    w' = afterRun tools arguments vars w executable ∧
      ((r = .ok () ∧ ∃ told, ranWith tools arguments vars w executable = .ok told) ∨
        ∃ fault, r = .error fault ∧ ranWith tools arguments vars w executable = .error fault) := by
  obtain ⟨_, u, hnote, hstream⟩ | ⟨fault, hnote, rfl⟩ := ends_bind.1 h
  · obtain ⟨-, rfl⟩ := ends_modify.1 hnote
    obtain ⟨rfl, rfl⟩ := ends_stream.1 hstream
    refine ⟨rfl, ?_⟩
    cases hran : ranWith tools arguments vars w executable with
    | ok told => exact .inl ⟨congrArg (Except.map _) hran, told, rfl⟩
    | error fault => exact .inr ⟨fault, congrArg (Except.map _) hran, rfl⟩
  · cases (ends_modify.1 hnote).1

/-- **Binaries are run in order**, all of them or up to the first that fails. -/
theorem ends_runExecutables : ∀ {executables : List String} {w w' : World}
    {r : Except Fault Unit},
    Ends (runExecutables tools executables arguments vars) w r w' →
    (r = .ok () ∧ Succeed tools arguments vars w executables ∧
        w' = afterRuns tools arguments vars w executables) ∨
      ∃ before executable behind fault, executables = before ++ executable :: behind ∧
        Succeed tools arguments vars w before ∧
        ranWith tools arguments vars (afterRuns tools arguments vars w before) executable =
          .error fault ∧
        r = .error fault ∧ w' = afterRuns tools arguments vars w (before ++ [executable])
  | [], w, w', r, h => by
      obtain ⟨rfl, rfl⟩ := ends_pure.1 h
      exact .inl ⟨rfl, succeed_nil, rfl⟩
  | executable :: rest, w, w', r, h => by
      obtain ⟨_, u, hfirst, hmore⟩ | ⟨fault, hfirst, rfl⟩ := ends_bind.1 h
      · obtain ⟨rfl, ⟨-, told, htold⟩ | ⟨fault, hfault, -⟩⟩ := ends_runExecutable hfirst
        · obtain ⟨rfl, hrest, rfl⟩ | ⟨before, other, behind, fault, rfl, hrest, hfault, rfl, rfl⟩ :=
            ends_runExecutables hmore
          · exact .inl ⟨rfl, hrest.cons htold, rfl⟩
          · exact .inr ⟨executable :: before, other, behind, fault, rfl, hrest.cons htold, hfault,
              rfl, rfl⟩
        · cases hfault
      · obtain ⟨rfl, ⟨hok, -⟩ | ⟨fault, hfault, hran⟩⟩ := ends_runExecutable hfirst
        · cases hok
        · obtain rfl := Except.error.inj hfault
          exact .inr ⟨[], executable, rest, _, rfl, succeed_nil, hran, rfl, rfl⟩

end Starting

/-! ## Building binaries -/

section Building

variable (subcommand : String) (arguments : List String)

/-- What the build tool is asked to do. -/
def asked : String :=
  if subcommand = "test" then "test" else "build"

/-- The call that builds. -/
def buildCall : Call :=
  ⟨true, Cargo.command (asked subcommand) (buildArguments (asked subcommand) arguments) false, none⟩

/-- The call that lists what was built. -/
def listingCall : Call :=
  ⟨false, Cargo.command (asked subcommand) (buildArguments (asked subcommand) arguments) true, none⟩

/-- The world after both calls. -/
def afterListing (tools : Toolbox) (w : World) : World :=
  (w.answered tools (buildCall subcommand arguments)).answered tools
    (listingCall subcommand arguments)

/-- Both calls succeed, and this is what the second one tells. -/
structure Tells (tools : Toolbox) (w : World) (output : String) : Prop where
  built : ∃ told, (w.response tools (buildCall subcommand arguments)).outcome = .ok told
  listed : ((w.answered tools (buildCall subcommand arguments)).response tools
    (listingCall subcommand arguments)).outcome = .ok output

/-- Both calls succeed, and these executables are listed. -/
def Lists (depth : Nat) (tools : Toolbox) (w : World) (executables : List String) : Prop :=
  ∃ output, Tells subcommand arguments tools w output ∧
    Cargo.executables depth (asked subcommand = "test") output = .ok executables

end Building

/-! ## The whole run -/

/-- The variables that binaries are run with. -/
def coverageVariables (pipeline : Pipeline) (root : Location) : Cargo.Environment :=
  Cargo.environment pipeline.settings.build.flags (pathOf (stagingArea root)) (pathOf root)
    pipeline.toolchain.nightly

/-- The staging area was cleared, and no tool was called. -/
structure Prepared (pipeline : Pipeline) (root : Location) (before after : World) : Prop where
  searches : Searches pipeline root before.disk
  cleared : Cleared pipeline.settings.build.markerOctets root before.disk after.disk
  calls : after.calls = before.calls

/-- What a run with coverage does, and how it ends. -/
inductive RunCourse (depth : Nat) (pipeline : Pipeline) (tools : Toolbox) (root : Location)
    (subcommand : String) (arguments binaryArguments : List String) (w : World) :
    Except Fault (List String) → World → Prop
  /-- The build fails. -/
  | unbuilt {fault : Fault}
      (build : (w.response tools (buildCall subcommand arguments)).outcome = .error fault) :
      RunCourse depth pipeline tools root subcommand arguments binaryArguments w (.error fault)
        (w.answered tools (buildCall subcommand arguments))
  /-- What was built cannot be listed. -/
  | unlisted {told : String} {fault : Fault}
      (build : (w.response tools (buildCall subcommand arguments)).outcome = .ok told)
      (listing : ((w.answered tools (buildCall subcommand arguments)).response tools
        (listingCall subcommand arguments)).outcome = .error fault) :
      RunCourse depth pipeline tools root subcommand arguments binaryArguments w (.error fault)
        (afterListing subcommand arguments tools w)
  /-- The list cannot be read. -/
  | unread {output : String} {fault : Cargo.MessageFault}
      (tells : Tells subcommand arguments tools w output)
      (read : Cargo.executables depth (asked subcommand = "test") output = .error fault) :
      RunCourse depth pipeline tools root subcommand arguments binaryArguments w
        (.error (.messages fault)) (afterListing subcommand arguments tools w)
  /-- The search for stale modules fails, so that none is removed. -/
  | unprepared {executables : List String} {fault : Fault} {w' : World}
      (lists : Lists subcommand arguments depth tools w executables)
      (search : ¬Searches pipeline root (afterListing subcommand arguments tools w).disk)
      (calls : w'.calls = (afterListing subcommand arguments tools w).calls)
      (disk : w'.disk = (afterListing subcommand arguments tools w).disk ∨
        w'.disk = withArea root (afterListing subcommand arguments tools w).disk) :
      RunCourse depth pipeline tools root subcommand arguments binaryArguments w (.error fault) w'
  /-- A binary fails, and those behind it are not started. -/
  | stopped {before behind : List String} {executable : String} {fault : Fault} {u : World}
      (lists : Lists subcommand arguments depth tools w (before ++ executable :: behind))
      (prepared : Prepared pipeline root (afterListing subcommand arguments tools w) u)
      (succeed : Succeed tools binaryArguments (coverageVariables pipeline root) u before)
      (fails : ranWith tools binaryArguments (coverageVariables pipeline root)
        (afterRuns tools binaryArguments (coverageVariables pipeline root) u before) executable =
          .error fault) :
      RunCourse depth pipeline tools root subcommand arguments binaryArguments w (.error fault)
        (afterRuns tools binaryArguments (coverageVariables pipeline root) u
          (before ++ [executable]))
  /-- All binaries are run. -/
  | ran {executables : List String} {u : World}
      (lists : Lists subcommand arguments depth tools w executables)
      (prepared : Prepared pipeline root (afterListing subcommand arguments tools w) u)
      (succeed : Succeed tools binaryArguments (coverageVariables pipeline root) u executables) :
      RunCourse depth pipeline tools root subcommand arguments binaryArguments w (.ok executables)
        (afterRuns tools binaryArguments (coverageVariables pipeline root) u executables)

/-- Building ends as the two calls do. -/
lemma ends_buildExecutables {r : Except Fault (List String)}
    (h : Ends (buildExecutables depth tools (asked subcommand) arguments none) w r w') :
    (∃ fault, (w.response tools (buildCall subcommand arguments)).outcome = .error fault ∧
        r = .error fault ∧ w' = w.answered tools (buildCall subcommand arguments)) ∨
      ∃ told, (w.response tools (buildCall subcommand arguments)).outcome = .ok told ∧
        w' = afterListing subcommand arguments tools w ∧
        ((∃ fault, ((w.answered tools (buildCall subcommand arguments)).response tools
            (listingCall subcommand arguments)).outcome = .error fault ∧ r = .error fault) ∨
          ∃ output, Tells subcommand arguments tools w output ∧
            r = (Cargo.executables depth (asked subcommand = "test") output).mapError
              .messages) := by
  obtain ⟨_, t, hbuild, hmore⟩ | ⟨fault, hbuild, rfl⟩ := ends_bind.1 h
  · obtain ⟨hbuilt, rfl⟩ := ends_stream.1 hbuild
    have houtcome : ∃ told,
        (w.response tools (buildCall subcommand arguments)).outcome = .ok told := by
      cases houtcome : (w.response tools (buildCall subcommand arguments)).outcome with
      | ok told => exact ⟨told, rfl⟩
      | error fault => cases hbuilt.trans (congrArg (Except.map _) houtcome)
    obtain ⟨told, htold⟩ := houtcome
    refine .inr ⟨told, htold, ?_⟩
    obtain ⟨output, u, hlist, hlast⟩ | ⟨fault, hlist, rfl⟩ := ends_bind.1 hmore
    · obtain ⟨hlisted, rfl⟩ := ends_call.1 hlist
      have htells : Tells subcommand arguments tools w output := ⟨⟨told, htold⟩, hlisted.symm⟩
      cases hread : Cargo.executables depth (asked subcommand = "test") output with
      | ok found =>
        simp only [hread] at hlast
        obtain ⟨rfl, rfl⟩ := ends_pure.1 hlast
        exact ⟨rfl, .inr ⟨output, htells, by rw [hread]; rfl⟩⟩
      | error fault =>
        simp only [hread] at hlast
        obtain ⟨rfl, rfl⟩ := ends_throw.1 hlast
        exact ⟨rfl, .inr ⟨output, htells, by rw [hread]; rfl⟩⟩
    · obtain ⟨hlisted, rfl⟩ := ends_call.1 hlist
      exact ⟨rfl, .inl ⟨fault, hlisted.symm, rfl⟩⟩
  · obtain ⟨hbuilt, rfl⟩ := ends_stream.1 hbuild
    cases houtcome : (w.response tools (buildCall subcommand arguments)).outcome with
    | ok told => cases hbuilt.trans (congrArg (Except.map _) houtcome)
    | error other =>
      obtain rfl := Except.error.inj (hbuilt.trans (congrArg (Except.map _) houtcome))
      exact .inl ⟨fault, rfl, rfl, rfl⟩

/-- Directories and links are kept when stale modules are removed. -/
lemma keeps_of_cleared {marker : Text.Octets} {disk disk' : Disk}
    (h : (withArea root disk).Searchable (stagingArea root))
    (hcleared : Cleared marker root disk disk') : Keeps (withArea root disk) disk' := by
  refine keeps_of_kept ?_ fun place node hnode hfile => ?_
  · rw [hcleared.here, withArea]
    split <;> rfl
  · by_cases hplace : place = stagingArea root
    · rw [hplace, hcleared.area, ← h.stands, ← hplace, hnode]
    · -- neither a directory nor a link is stale
      rw [node?_withArea_of_ne hplace] at hnode
      rw [hcleared.kept place hplace, hnode]
      rintro ⟨data, ⟨_, _, executable, -, -, -, hmodule⟩, -⟩
      exact hfile data executable (Option.some.inj (hnode.symm.trans hmodule))

/-- The variables are those of an instrumented build, once the staging area is there. -/
lemma ends_environment {u : World} (h : Stageable pipeline.workspace root w.disk)
    (hshort : ¬TooLong (stagingArea root)) (hkeeps : Keeps (withArea root w.disk) u.disk) :
    Ends (environment pipeline) u (.ok (coverageVariables pipeline root)) u := by
  obtain ⟨r, t, hstore⟩ := exists_ends (pipeline.workspace.store .staging) w
  obtain ⟨rfl, -, rfl⟩ | ⟨-, hlong, -⟩ := ends_area h hstore
  · exact (store_again hstore hkeeps).bind ((ends_root h.bound).bind (ends_pure.2 ⟨rfl, rfl⟩))
  · exact absurd hlong hshort

section Listed

variable {r : Except Fault (List String)}
  (hlists : Lists subcommand arguments depth tools w executables)
  (hstageable : Stageable pipeline.workspace root (afterListing subcommand arguments tools w).disk)

include hlists hstageable

/-- Once the staging area was cleared, the binaries are run. -/
lemma runCourse_of_prepared {u : World}
    (hprepared : Prepared pipeline root (afterListing subcommand arguments tools w) u)
    (hend : Ends (do
      let vars ← environment pipeline
      runExecutables tools executables binaryArguments vars
      return executables) u r w') :
    RunCourse depth pipeline tools root subcommand arguments binaryArguments w r w' := by
  have henvironment := ends_environment hstageable hprepared.searches.1
    (keeps_of_cleared hstageable.searchable hprepared.cleared)
  obtain ⟨vars, v, hvars, hrun⟩ | ⟨fault, hvars, rfl⟩ := ends_bind.1 hend
  · obtain ⟨heq, rfl⟩ := hvars.unique henvironment
    obtain rfl := Except.ok.inj heq
    obtain ⟨_, t, hruns, hlast⟩ | ⟨fault, hruns, rfl⟩ := ends_bind.1 hrun
    · obtain ⟨rfl, rfl⟩ := ends_pure.1 hlast
      obtain ⟨-, hsucceed, rfl⟩ | ⟨_, _, _, _, _, _, _, hfault, _⟩ := ends_runExecutables hruns
      · exact .ran hlists hprepared hsucceed
      · cases hfault
    · obtain ⟨hok, -⟩ | ⟨before, executable, behind, _, rfl, hsucceed, hfails, hfault, rfl⟩ :=
        ends_runExecutables hruns
      · cases hok
      · obtain rfl := Except.error.inj hfault
        exact .stopped hlists hprepared hsucceed hfails
  · cases (hvars.unique henvironment).1

/-- Once the binaries were listed, the staging area is cleared. -/
lemma runCourse_of_listed (hend : Ends (do
      let _ ← prepareTarget pipeline
      let vars ← environment pipeline
      runExecutables tools executables binaryArguments vars
      return executables) (afterListing subcommand arguments tools w) r w') :
    RunCourse depth pipeline tools root subcommand arguments binaryArguments w r w' := by
  obtain ⟨path, u, hprepare, hrun⟩ | ⟨fault, hprepare, rfl⟩ := ends_bind.1 hend
  · obtain ⟨hcalls, ⟨-, hsearches, hcleared⟩ | ⟨⟨_, hfault⟩, -⟩⟩ :=
      prepareTarget_spec hstageable hprepare
    · exact runCourse_of_prepared hlists hstageable ⟨hsearches, hcleared, hcalls⟩ hrun
    · cases hfault
  · obtain ⟨hcalls, ⟨hok, -⟩ | ⟨-, hsearch, hdisk⟩⟩ := prepareTarget_spec hstageable hprepare
    · cases hok
    · exact .unprepared hlists hsearch hcalls hdisk

end Listed

/-- **The course of a run with coverage**, in a workspace whose staging area is a tree without links
when the binaries were listed. -/
theorem runWithCoverage_course {r : Except Fault (List String)}
    (hready : ∀ executables, Lists subcommand arguments depth tools w executables →
      Stageable pipeline.workspace root (afterListing subcommand arguments tools w).disk)
    (hend : Ends (runWithCoverage depth pipeline tools subcommand arguments binaryArguments)
      w r w') :
    RunCourse depth pipeline tools root subcommand arguments binaryArguments w r w' := by
  obtain ⟨executables, t, hbuild, hmore⟩ | ⟨fault, hbuild, rfl⟩ := ends_bind.1 hend
  · obtain ⟨_, -, hfault, -⟩ | ⟨told, -, rfl, ⟨_, -, hfault⟩ | ⟨output, htells, hread⟩⟩ :=
      ends_buildExecutables hbuild
    · cases hfault
    · cases hfault
    · cases hfound : Cargo.executables depth (asked subcommand = "test") output with
      | ok found =>
        rw [hfound] at hread
        obtain rfl := Except.ok.inj hread
        have hlists : Lists subcommand arguments depth tools w executables :=
          ⟨output, htells, hfound⟩
        exact runCourse_of_listed hlists (hready executables hlists) hmore
      | error fault =>
        rw [hfound] at hread
        cases hread
  · obtain ⟨_, houtcome, hfault, rfl⟩ | ⟨told, htold, rfl,
      ⟨_, houtcome, hfault⟩ | ⟨output, htells, hread⟩⟩ := ends_buildExecutables hbuild
    · obtain rfl := Except.error.inj hfault
      exact .unbuilt houtcome
    · obtain rfl := Except.error.inj hfault
      exact .unlisted htold houtcome
    · cases hfound : Cargo.executables depth (asked subcommand = "test") output with
      | ok found =>
        rw [hfound] at hread
        cases hread
      | error other =>
        rw [hfound] at hread
        obtain rfl := Except.error.inj hread
        exact .unread htells hfound

/-! ## What is called -/

/-- Both calls of the build tool end in the arguments, and in `--no-run` if tests are built, and
they set no variables. -/
lemma suffix_of_mem_calls {request : Call}
    (h : request ∈ [buildCall subcommand arguments, listingCall subcommand arguments]) :
    arguments ++ (if subcommand = "test" then ["--no-run"] else []) <:+ request.argv ∧
      request.environment = none := by
  have hasked : buildArguments (asked subcommand) arguments =
      arguments ++ if subcommand = "test" then ["--no-run"] else [] := by
    unfold buildArguments asked
    split <;> simp
  rw [List.mem_pair] at h
  obtain rfl | rfl := h
  · exact ⟨⟨_, by rw [← hasked]; rfl⟩, rfl⟩
  · exact ⟨⟨_, by rw [← hasked]; rfl⟩, rfl⟩

/-- **Which variables binaries see**: the flags, the staging area and the workspace, and a nightly
compiler if the active one is not. -/
theorem mem_coverageVariables_iff {name value : String} :
    (name, value) ∈ coverageVariables pipeline root ↔
      name = "CARGO_ENCODED_RUSTFLAGS" ∧
        value = Text.joinText "\x1f" pipeline.settings.build.flags ∨
      name = "CARGO_TARGET_DIR" ∧ value = (pathOf (stagingArea root)).text ∨
      name = "WASMCOV_DIR" ∧ value = (pathOf root).text ∨
      name = "RUSTUP_TOOLCHAIN" ∧ value = "nightly" ∧ pipeline.toolchain.nightly = false := by
  cases hnightly : pipeline.toolchain.nightly <;>
    simp [coverageVariables, Cargo.environment, Cargo.workspaceVariable, hnightly]

/-- **All calls of a run**: one or both of the build tool, and one for each binary started, which
are the first of those listed. -/
theorem RunCourse.calls_eq {r : Except Fault (List String)}
    (h : RunCourse depth pipeline tools root subcommand arguments binaryArguments w r w') :
    w'.calls = w.calls ++ [buildCall subcommand arguments] ∨
    ∃ started, w'.calls = w.calls ++ [buildCall subcommand arguments,
        listingCall subcommand arguments] ++
        started.map (runCall binaryArguments (coverageVariables pipeline root)) ∧
      (started ≠ [] → ∃ executables, Lists subcommand arguments depth tools w executables ∧
        started <+: executables) := by
  have hlisting : (afterListing subcommand arguments tools w).calls =
      w.calls ++ [buildCall subcommand arguments, listingCall subcommand arguments] := by
    simp [afterListing, World.answered]
  cases h with
  | unbuilt build => exact .inl rfl
  | unlisted build listing => exact .inr ⟨[], by simpa using hlisting, by simp⟩
  | unread tells read => exact .inr ⟨[], by simpa using hlisting, by simp⟩
  | unprepared lists search calls disk =>
    exact .inr ⟨[], by simpa using calls.trans hlisting, by simp⟩
  | @stopped before behind executable fault u lists prepared succeed fails =>
    refine .inr ⟨before ++ [executable], ?_, fun _ => ⟨_, lists, behind, by simp⟩⟩
    rw [calls_afterRuns, prepared.calls, hlisting]
  | @ran executables u lists prepared succeed =>
    refine .inr ⟨executables, ?_, fun _ => ⟨_, lists, List.prefix_refl _⟩⟩
    rw [calls_afterRuns, prepared.calls, hlisting]

/-! ## Two binaries, and a test -/

/-- What the build tool tells of a binary of tests. -/
def testLine (path : String) : String :=
  "\x7b\"reason\":\"compiler-artifact\",\"executable\":\"" ++ path ++
    "\",\"profile\":\x7b\"test\":true\x7d\x7d"

/-- A build tool that lists two binaries, or one of tests, and the binaries; the second fails. -/
def sampleTools : Toolbox := fun _ request disk =>
  match request.argv with
  | ["/t/b", _] => { outcome := .error (.tool ⟨request.argv, 1, ""⟩), disk }
  | ["cargo", "build", "--message-format=json", _] =>
    { outcome := .ok (String.ofList (['\n'].intercalate
        [Cargo.artifactLine "/t/a", Cargo.artifactLine "/t/b"])), disk }
  | ["cargo", "test", "--message-format=json", _, "--no-run"] =>
    { outcome := .ok (testLine "/t/c"), disk }
  | _ => { outcome := .ok "", disk }

/-- A module of an earlier build in the staging area, and one that is not instrumented. -/
def staleWorld : World where
  disk :=
    { here := []
      entries := [(["w"], .directory), (["staging", "w"], .directory),
        (["deps", "staging", "w"], .directory),
        (["x.wasm", "deps", "staging", "w"], .file (Text.octetsOf defaultMarker) false),
        (["y.wasm", "deps", "staging", "w"], .file (Text.octetsOf "y") false)] }
  clock := ⟨2024, 5, 1, 0, 0, 0, 0⟩

lemma stageable_staleWorld :
    Stageable Pipeline.profilePipeline.workspace ["w"] staleWorld.disk where
  bound := rfl
  names := by decide +kernel
  tree := isTree_of_entries (by decide +kernel)
  stands := rfl
  clean := by decide +kernel
  distinct := by decide +kernel
  area := .inr (searchable_of_entries (by decide +kernel) (by decide +kernel)
    (fun place _ => noLink_of_linkCount (by decide +kernel) place) (by decide +kernel))

/-- Two binaries are listed, or one of tests, and each run takes one of its courses. -/
theorem runWithCoverage_course_two :
    Lists "run" ["-q"] 1000 sampleTools staleWorld ["/t/a", "/t/b"] ∧
    Lists "test" ["-q"] 1000 sampleTools staleWorld ["/t/c"] ∧
    (∀ subcommand executables, Lists subcommand ["-q"] 1000 sampleTools staleWorld executables →
      Stageable Pipeline.profilePipeline.workspace ["w"]
        (afterListing subcommand ["-q"] sampleTools staleWorld).disk) ∧
    (∃ r w', Ends (runWithCoverage 1000 Pipeline.profilePipeline sampleTools "run" ["-q"] ["x"])
        staleWorld r w' ∧
      RunCourse 1000 Pipeline.profilePipeline sampleTools ["w"] "run" ["-q"] ["x"]
        staleWorld r w') ∧
    ∃ r w', Ends (runWithCoverage 1000 Pipeline.profilePipeline sampleTools "test" ["-q"] ["x"])
        staleWorld r w' ∧
      RunCourse 1000 Pipeline.profilePipeline sampleTools ["w"] "test" ["-q"] ["x"]
        staleWorld r w' := by
  have hdisk (calls : List Call) (request : Call) (disk : Disk) :
      (sampleTools calls request disk).disk = disk := by
    unfold sampleTools
    split <;> rfl
  have hready (subcommand : String) (executables : List String)
      (_ : Lists subcommand ["-q"] 1000 sampleTools staleWorld executables) :
      Stageable Pipeline.profilePipeline.workspace ["w"]
        (afterListing subcommand ["-q"] sampleTools staleWorld).disk := by
    have hsame : (afterListing subcommand ["-q"] sampleTools staleWorld).disk =
        staleWorld.disk := by
      simp only [afterListing, World.answered, World.response, hdisk]
    rw [hsame]
    exact stageable_staleWorld
  obtain ⟨r, w', hend⟩ := exists_ends
    (runWithCoverage 1000 Pipeline.profilePipeline sampleTools "run" ["-q"] ["x"]) staleWorld
  obtain ⟨s, v', htest⟩ := exists_ends
    (runWithCoverage 1000 Pipeline.profilePipeline sampleTools "test" ["-q"] ["x"]) staleWorld
  exact ⟨⟨_, ⟨⟨"", rfl⟩, rfl⟩, by decide +kernel⟩, ⟨_, ⟨⟨"", rfl⟩, rfl⟩, by decide +kernel⟩, hready,
    ⟨r, w', hend, runWithCoverage_course (hready "run") hend⟩,
    ⟨s, v', htest, runWithCoverage_course (hready "test") htest⟩⟩

end WasmCoverage.InstrumentedBuild
