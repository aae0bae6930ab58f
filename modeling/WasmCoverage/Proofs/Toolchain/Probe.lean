import WasmCoverage.InstrumentedBuild
import WasmCoverage.Proofs.Runs
import WasmCoverage.Proofs.Toolchain.Version

/-!
# What a probe finds

A probe puts a toolchain together out of the settings, the compiler's report and the programs on
the search path.  **`probe_spec`** says what is in a toolchain that was found.

* The compiler is asked if its version is needed or the target has to be checked (`Asks`).  Then
  the toolchain is a nightly one exactly if the report of the active compiler says so.  If the
  settings name a version and no target is checked, no tool is called, and the toolchain counts as
  a nightly one (`not_nightly_of_stable`: whatever the compiler would say).
* An instrumented build asks for a nightly compiler exactly if the toolchain is not a nightly one.
* The tools that the settings leave open are the first programs on the search path whose names
  carry the version, which is that of the settings or that of the report.
-/

namespace WasmCoverage.Toolchain

open WasmCoverage.Text

variable {tools : Toolbox} {settings : ToolchainSettings} {w w' : World}

/-! ## Questions -/

/-- The question to the active compiler. -/
def versionCall : Call := ⟨false, ["rustc", "--version", "--verbose"], none⟩

/-- The compiler is asked: its version is needed, or the target has to be checked. -/
def Asks (settings : ToolchainSettings) : Prop :=
  settings.llvmVersion = none ∨ settings.checkWasmTarget = true

/-- Other words for a failure do not make a success of it. -/
lemma ends_rewordFailure_ok {reword : Tool.Failure → ToolchainFault} {run : Run String}
    {output : String} :
    Ends (rewordFailure reword run) w (.ok output) w' ↔ Ends run w (.ok output) w' := by
  constructor
  · intro h
    obtain ⟨found, hrun, heq⟩ | ⟨fault, t, -, hhandler⟩ := ends_tryCatch.1 h
    · exact Except.ok.inj heq ▸ hrun
    · split at hhandler
      · cases (ends_throw.1 hhandler).1
      · cases (ends_throw.1 hhandler).1
  · exact Ends.catch_ok

/-- **The compiler is asked once**, and its report is read. -/
lemma ends_checkCompiler_ok {report : Report} :
    Ends (checkCompiler tools) w (.ok report) w' ↔ ∃ output,
      (w.response tools versionCall).outcome = .ok output ∧ Report.read? output = some report ∧
        w' = w.answered tools versionCall := by
  simp only [checkCompiler, ends_bind_ok, ends_rewordFailure_ok, listen, ends_call]
  constructor
  · rintro ⟨output, t, ⟨houtcome, rfl⟩, hend⟩
    split at hend
    · next found hread =>
      obtain ⟨heq, rfl⟩ := ends_pure.1 hend
      obtain rfl := Except.ok.inj heq
      exact ⟨output, houtcome.symm, hread, rfl⟩
    · cases (ends_throw.1 hend).1
  · rintro ⟨output, houtcome, hread, rfl⟩
    refine ⟨output, _, ⟨houtcome.symm, rfl⟩, ?_⟩
    rw [hread]
    exact ends_pure.2 ⟨rfl, rfl⟩

/-- Checking the target leaves the search path alone. -/
lemma searchPath_of_checkTarget {nightly : Bool} {target : String}
    (h : Ends (checkTarget tools nightly target) w (.ok ()) w') : w'.searchPath = w.searchPath := by
  obtain ⟨output, t, hlisten, hend⟩ := ends_bind_ok.1 h
  obtain ⟨-, rfl⟩ := ends_call.1 (ends_rewordFailure_ok.1 hlisten)
  split at hend
  · exact (ends_pure.1 hend).2 ▸ rfl
  · cases (ends_throw.1 hend).1

/-! ## Programs -/

/-- Of the places that the search path puts the name at, this is the first with a program. -/
def FirstProgram (disk : Disk) (searchPath : List String) (name place : String) : Prop :=
  ∃ earlier later, SearchPath.places searchPath name = earlier ++ place :: later ∧
    isProgram disk (.ofText place) = true ∧
    ∀ other ∈ earlier, isProgram disk (.ofText other) = false

/-- The tool that is named, or else the first program with a name. -/
def Resolved (disk : Disk) (searchPath : List String) (explicit : Option String)
    (name tool : String) : Prop :=
  (explicit = some tool ∧ tool ≠ "") ∨
    (explicit = none ∨ explicit = some "") ∧ FirstProgram disk searchPath name tool

lemma firstProgram_of_which? {disk : Disk} {searchPath : List String} {name place : String}
    (h : which? disk searchPath name = some place) : FirstProgram disk searchPath name place := by
  unfold which? at h
  split at h
  · cases h
  · obtain ⟨hprogram, earlier, later, hplaces, hearlier⟩ := List.find?_eq_some_iff_append.1 h
    exact ⟨earlier, later, hplaces, hprogram, fun other hother => by
      simpa using hearlier other hother⟩

lemma ends_ensureTool_ok {name place : String} (h : Ends (ensureTool name) w (.ok place) w') :
    FirstProgram w.disk w.searchPath name place ∧ w' = w := by
  have hend := ends_get_bind.1 h
  split at hend
  · next found hfound =>
    obtain ⟨heq, rfl⟩ := ends_pure.1 hend
    obtain rfl := Except.ok.inj heq
    exact ⟨firstProgram_of_which? hfound, rfl⟩
  · cases (ends_throw.1 hend).1

/-- **A tool is found without a change of the world.** -/
lemma ends_resolveTool_ok {explicit : Option String} {base version tool : String}
    (h : Ends (resolveTool explicit base version) w (.ok tool) w') :
    Resolved w.disk w.searchPath explicit (base ++ "-" ++ version) tool ∧ w' = w := by
  unfold resolveTool at h
  split at h
  · next named =>
    split_ifs at h with hempty
    · obtain ⟨hfirst, rfl⟩ := ends_ensureTool_ok h
      exact ⟨.inr ⟨.inr (by rw [hempty]), hfirst⟩, rfl⟩
    · obtain ⟨heq, rfl⟩ := ends_pure.1 h
      obtain rfl := Except.ok.inj heq
      exact ⟨.inl ⟨rfl, hempty⟩, rfl⟩
  · obtain ⟨hfirst, rfl⟩ := ends_ensureTool_ok h
    exact ⟨.inr ⟨.inl rfl, hfirst⟩, rfl⟩

/-! ## The compiler -/

/-- What is known about the compiler: its version, and whether it is a nightly one. -/
structure CompilerKnown (tools : Toolbox) (settings : ToolchainSettings) (w : World)
    (version : String) (nightly : Bool) : Prop where
  /-- If the active compiler is asked, it counts what its report says. -/
  asked : Asks settings → ∃ output reported,
    (w.response tools versionCall).outcome = .ok output ∧
      FirstVersion output.toList reported.toList ∧
      (nightly = true ↔ "nightly".toList <:+: output.toList) ∧
      (settings.llvmVersion = none ∨ settings.llvmVersion = some "" → version = reported)
  /-- If nobody asks, it counts as a nightly one. -/
  unasked : ¬Asks settings → nightly = true
  /-- A version that the settings name is used. -/
  configured : ∀ named, settings.llvmVersion = some named → named ≠ "" → version = named

/-- **The compiler is asked if need be, and otherwise nothing is done.** -/
theorem probeCompiler_spec {version : String} {nightly : Bool}
    (h : Ends (probeCompiler tools settings) w (.ok (version, nightly)) w') :
    CompilerKnown tools settings w version nightly ∧ w'.searchPath = w.searchPath ∧
      (¬Asks settings → w' = w) := by
  have hasks : (settings.llvmVersion.isNone || settings.checkWasmTarget) = true ↔
      Asks settings := by
    simp [Asks, Option.isNone_iff_eq_none]
  unfold probeCompiler at h
  split_ifs at h with hcondition
  · obtain ⟨report, t, hcheck, hend⟩ := ends_bind_ok.1 h
    obtain ⟨output, houtcome, hread, rfl⟩ := ends_checkCompiler_ok.1 hcheck
    obtain ⟨heq, rfl⟩ := ends_pure.1 hend
    obtain ⟨rfl, rfl⟩ := Prod.mk.inj (Except.ok.inj heq)
    obtain ⟨hversion, hnightly⟩ := Report.read?_eq_some_iff.1 hread
    refine ⟨⟨fun _ => ⟨output, report.version, houtcome, hversion, hnightly, ?_⟩,
      fun hnot => absurd (hasks.1 hcondition) hnot, ?_⟩, rfl,
      fun hnot => absurd (hasks.1 hcondition) hnot⟩
    · rintro (hnone | hempty)
      · rw [hnone, orElse]
      · rw [hempty, orElse, if_pos rfl]
    · intro named hnamed hne
      rw [hnamed, orElse, if_neg hne]
  · obtain ⟨heq, rfl⟩ := ends_pure.1 h
    obtain ⟨rfl, rfl⟩ := Prod.mk.inj (Except.ok.inj heq)
    refine ⟨⟨fun hyes => absurd (hasks.2 hyes) hcondition, fun _ => rfl, ?_⟩, rfl, fun _ => rfl⟩
    intro named hnamed _
    rw [hnamed, Option.getD_some]

/-! ## The build -/

/-- **An instrumented build asks for a nightly compiler exactly if the toolchain is not a nightly
one.** -/
theorem get?_rustup_environment {pipeline : Pipeline} {vars : Cargo.Environment}
    (h : Ends (InstrumentedBuild.environment pipeline) w (.ok vars) w') :
    Table.get? "RUSTUP_TOOLCHAIN" vars =
      if pipeline.toolchain.nightly then none else some "nightly" := by
  obtain ⟨staging, t, -, hroot⟩ := ends_bind_ok.1 h
  obtain ⟨root, u, -, hend⟩ := ends_bind_ok.1 hroot
  obtain rfl := Except.ok.inj (ends_pure.1 hend).1
  cases pipeline.toolchain.nightly <;>
    simp [Cargo.environment, Cargo.workspaceVariable, Table.get?]

/-! ## The toolchain -/

/-- What there is to say about a toolchain that was found. -/
structure Probed (tools : Toolbox) (settings : ToolchainSettings) (w : World)
    (toolchain : Toolchain) (w' : World) : Prop where
  compiler : CompilerKnown tools settings w toolchain.llvmVersion toolchain.nightly
  /-- Where the compiler is not asked, no other tool is called either. -/
  untouched : ¬Asks settings → w' = w
  /-- An instrumented build asks for a nightly compiler if this is not one. -/
  override : ∀ pipeline : Pipeline, pipeline.toolchain = toolchain → ∀ u vars u',
    Ends (InstrumentedBuild.environment pipeline) u (.ok vars) u' →
      Table.get? "RUSTUP_TOOLCHAIN" vars = if toolchain.nightly then none else some "nightly"
  clang : Resolved w'.disk w.searchPath settings.clang ("clang-" ++ toolchain.llvmVersion)
    toolchain.clang
  llvmProfdata : Resolved w'.disk w.searchPath settings.llvmProfdata
    ("llvm-profdata-" ++ toolchain.llvmVersion) toolchain.llvmProfdata
  llvmCov : Resolved w'.disk w.searchPath settings.llvmCov
    ("llvm-cov-" ++ toolchain.llvmVersion) toolchain.llvmCov

/-- **What a probe finds**, for any settings and whatever the tools answer. -/
theorem probe_spec {toolchain : Toolchain}
    (h : Ends (probe tools settings) w (.ok toolchain) w') :
    Probed tools settings w toolchain w' := by
  obtain ⟨⟨version, nightly⟩, t, hcompiler, hrest⟩ := ends_bind_ok.1 h
  obtain ⟨hknown, hpath, hunasked⟩ := probeCompiler_spec hcompiler
  -- the target is checked or not, and the tools are resolved in the world that is left
  have hchecked : ∃ u : World, u.searchPath = w.searchPath ∧ (¬Asks settings → u = w) ∧
      Ends (do
        let clang ← resolveTool settings.clang "clang" version
        let llvmProfdata ← resolveTool settings.llvmProfdata "llvm-profdata" version
        let llvmCov ← resolveTool settings.llvmCov "llvm-cov" version
        return ⟨version, nightly, clang, llvmProfdata, llvmCov⟩) u (.ok toolchain) w' := by
    simp only at hrest
    split_ifs at hrest with hcheck
    · obtain ⟨_, u, htarget, hrest⟩ := ends_bind_ok.1 hrest
      exact ⟨u, (searchPath_of_checkTarget htarget).trans hpath,
        fun hnot => absurd (.inr hcheck) hnot, hrest⟩
    · exact ⟨t, hpath, hunasked, hrest⟩
  obtain ⟨u, hsearch, huntouched, htools⟩ := hchecked
  obtain ⟨clang, u₁, hclang, htools⟩ := ends_bind_ok.1 htools
  obtain ⟨llvmProfdata, u₂, hprofdata, htools⟩ := ends_bind_ok.1 htools
  obtain ⟨llvmCov, u₃, hcov, hlast⟩ := ends_bind_ok.1 htools
  obtain ⟨hresolvedClang, rfl⟩ := ends_resolveTool_ok hclang
  obtain ⟨hresolvedProfdata, rfl⟩ := ends_resolveTool_ok hprofdata
  obtain ⟨hresolvedCov, rfl⟩ := ends_resolveTool_ok hcov
  obtain ⟨heq, rfl⟩ := ends_pure.1 hlast
  obtain rfl := Except.ok.inj heq
  rw [hsearch] at hresolvedClang hresolvedProfdata hresolvedCov
  exact ⟨hknown, huntouched, fun pipeline hpipeline _ _ _ hvars =>
    hpipeline ▸ get?_rustup_environment hvars, hresolvedClang, hresolvedProfdata, hresolvedCov⟩

/-! ## A stable compiler -/

/-- The report of a stable compiler. -/
def stableReport : String := "rustc 1.75.0\nrelease: 1.75.0\nLLVM version: 17.0.4\n"

/-- A stable compiler for which the usual target is installed. -/
def stableTools : Toolbox := fun _ request disk =>
  match request.argv with
  | "rustc" :: _ => { outcome := .ok stableReport, disk }
  | _ => { outcome := .ok "wasm32-unknown-unknown\n", disk }

/-- A search path with two directories; one of them has programs. -/
def toolWorld : World where
  disk :=
    { here := []
      entries := [(["a"], .directory), (["b"], .directory), (["clang-17", "a"], .file [] false),
        (["clang-17", "b"], .file [] true), (["llvm-cov-17", "b"], .file [] true)] }
  clock := ⟨2024, 5, 1, 0, 0, 0, 0⟩
  searchPath := ["/a", "/b"]

/-- Settings that name one tool. -/
def openSettings : ToolchainSettings := { llvmProfdata := some "profdata", llvmCov := some "" }

/-- The compiler is asked, and two tools are found in the second directory. -/
theorem probe_spec_stable : ∃ w',
    Ends (probe stableTools openSettings) toolWorld
      (.ok ⟨"17", false, "/b/clang-17", "profdata", "/b/llvm-cov-17"⟩) w' ∧
    Probed stableTools openSettings toolWorld
      ⟨"17", false, "/b/clang-17", "profdata", "/b/llvm-cov-17"⟩ w' := by
  have hend := ends_of_result (x := probe stableTools openSettings) (s := toolWorld)
    (r := .ok ⟨"17", false, "/b/clang-17", "profdata", "/b/llvm-cov-17"⟩) (by decide +kernel)
  exact ⟨_, hend, probe_spec hend⟩

/-- Settings that name everything, with which no target is checked. -/
def closedSettings : ToolchainSettings :=
  ⟨some "17", some "clang", some "profdata", some "cov", false, "wasm32-unknown-unknown"⟩

/-- A toolchain that is found beside a stable compiler may count as a nightly one, so that a build
does not ask for one: the compiler is not asked. -/
theorem not_nightly_of_stable : ¬∀ tools settings (w w' : World) toolchain output,
    (w.response tools versionCall).outcome = .ok output → (Report.read? output).isSome = true →
    Ends (probe tools settings) w (.ok toolchain) w' →
    (toolchain.nightly = true ↔ "nightly".toList <:+: output.toList) := by
  intro h
  have hend : Ends (probe stableTools closedSettings) toolWorld
      (.ok ⟨"17", true, "clang", "profdata", "cov"⟩) toolWorld := rfl
  have hnightly := (h stableTools closedSettings toolWorld toolWorld _ stableReport rfl
    (by decide +kernel) hend).1 rfl
  exact absurd (occursIn_iff.2 hnightly) (by decide +kernel)

end WasmCoverage.Toolchain
