import WasmCoverage.Cargo.Messages
import WasmCoverage.Pipeline

/-!
# Instrumented builds

The build tool is directed into the staging area of the workspace, so that finalization finds its
output there.  Modules of earlier builds are removed first: the build tool may skip what has not
changed, and a module must be from the coming build to be taken.

Binaries and tests are built without instrumentation; only while they run do they see the
variables of an instrumented build, so that the modules they build are instrumented.
-/

namespace WasmCoverage.InstrumentedBuild

open WasmCoverage.Text

/-- Write to the journal of builds. -/
def note (level : LogLevel) (message : String) : Run Unit :=
  journal .build level message

/-- The variables of an instrumented build. -/
def environment (pipeline : Pipeline) : Run Cargo.Environment := do
  let staging ← pipeline.workspace.store .staging
  let root ← pipeline.workspace.root
  return Cargo.environment pipeline.settings.build.flags staging root pipeline.toolchain.nightly

/-- Remove a module of an earlier build. -/
def removeStale (module : Module) : Run Unit := do
  note .debug ("Removing stale module " ++ module.path.text)
  onDisk (Disk.removeIfThere module.path)

/-- Remove the instrumented modules from the staging area, and give its path.  A module that may
not be opened stays. -/
def prepareTargetWhere (forbidden : Forbidden) (pipeline : Pipeline) : Run Path := do
  let staging ← pipeline.workspace.store .staging
  let stale ← discover staging pipeline.settings.build.markerOctets forbidden
  stale.forM removeStale
  return staging

/-- Remove the instrumented modules from a staging area in which everything may be opened. -/
def prepareTarget (pipeline : Pipeline) : Run Path :=
  prepareTargetWhere (fun _ => false) pipeline

/-- Build with instrumentation into the staging area, from which the instrumented modules that may
be opened are removed first. -/
def buildWhere (forbidden : Forbidden) (pipeline : Pipeline) (tools : Toolbox)
    (arguments : List String) : Run Path := do
  let staging ← prepareTargetWhere forbidden pipeline
  let vars ← environment pipeline
  stream tools (Cargo.command "build" arguments false) (some vars)
  return staging

/-- Build with instrumentation into a staging area in which everything may be opened. -/
def build (pipeline : Pipeline) (tools : Toolbox) (arguments : List String) : Run Path :=
  buildWhere (fun _ => false) pipeline tools arguments

/-- The arguments that build test binaries and do not run them. -/
def buildArguments (subcommand : String) (arguments : List String) : List String :=
  if subcommand = "test" then arguments ++ ["--no-run"] else arguments

/-- Build binaries or tests, and give the executables; `depth` is how deep messages may nest. -/
def buildExecutables (depth : Nat) (tools : Toolbox) (subcommand : String)
    (arguments : List String) (vars : Option Cargo.Environment) : Run (List String) := do
  let arguments := buildArguments subcommand arguments
  stream tools (Cargo.command subcommand arguments false) vars
  let output ← listen tools (Cargo.command subcommand arguments true) vars
  match Cargo.executables depth (subcommand = "test") output with
  | .ok found => return found
  | .error fault => throw (.messages fault)

/-- Run an executable. -/
def runExecutable (tools : Toolbox) (arguments : List String) (vars : Cargo.Environment)
    (executable : String) : Run Unit := do
  note .info ("Running binary: " ++ executable)
  stream tools (executable :: arguments) (some vars)

/-- Run executables in turn, up to the first that fails. -/
def runExecutables (tools : Toolbox) (executables arguments : List String)
    (vars : Cargo.Environment) : Run Unit :=
  executables.forM (runExecutable tools arguments vars)

/-- Build binaries or tests and run them with coverage; gives those that were run. -/
def runWithCoverage (depth : Nat) (pipeline : Pipeline) (tools : Toolbox) (subcommand : String)
    (buildArguments binaryArguments : List String) : Run (List String) := do
  let subcommand := if subcommand = "test" then "test" else "build"
  let executables ← buildExecutables depth tools subcommand buildArguments none
  let _ ← prepareTarget pipeline
  let vars ← environment pipeline
  runExecutables tools executables binaryArguments vars
  return executables

end WasmCoverage.InstrumentedBuild
