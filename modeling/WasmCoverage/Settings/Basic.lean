import WasmCoverage.Json.Basic
import WasmCoverage.Tool.Command
import WasmCoverage.World
import WasmCoverage.Discovery

/-!
# Settings

What a run can be told: where its workspace is, which tools it uses, how modules are built, what
is added to the tools' command lines and how much is logged.  Every setting has a default.
-/

namespace WasmCoverage

open WasmCoverage.Text

/-- Which tools are used.  What is not given is found out. -/
structure ToolchainSettings where
  llvmVersion : Option String := none
  clang : Option String := none
  llvmProfdata : Option String := none
  llvmCov : Option String := none
  checkWasmTarget : Bool := true
  wasmTarget : String := "wasm32-unknown-unknown"
  deriving DecidableEq, Repr

/-- The compiler flags of an instrumented build. -/
def defaultFlags : List String :=
  ["--emit=llvm-ir", "-Cinstrument-coverage", "-Clto=off", "-Zlocation-detail=none",
   "-Zno-profiler-runtime"]

/-- How modules are built and objects compiled. -/
structure BuildSettings where
  marker : String := defaultMarker
  targetTriple : String := Tool.defaultTriple
  flags : List String := defaultFlags
  deriving DecidableEq, Repr

/-- The octets of the marker. -/
def BuildSettings.markerOctets (settings : BuildSettings) : Octets :=
  octetsOf settings.marker

/-- How much is logged, and to which file under the root of the workspace. -/
structure LoggingSettings where
  level : LogLevel := .info
  file : Option String := some "wasmcov.log"
  deriving DecidableEq, Repr

/-- The settings of a run. -/
structure Settings where
  workspaceRoot : Option String := none
  toolchain : ToolchainSettings := {}
  build : BuildSettings := {}
  /-- What is added to every merge command. -/
  mergeArguments : List String := []
  /-- What is added to every report command. -/
  reportArguments : List String := []
  logging : LoggingSettings := {}
  deriving DecidableEq, Repr

namespace Settings

/-- The settings as a record of sections. -/
def toJson (settings : Settings) : Json :=
  .record
    [("workspace", .record [("root", .ofString? settings.workspaceRoot)]),
     ("toolchain", .record
       [("llvm_version", .ofString? settings.toolchain.llvmVersion),
        ("clang", .ofString? settings.toolchain.clang),
        ("llvm_profdata", .ofString? settings.toolchain.llvmProfdata),
        ("llvm_cov", .ofString? settings.toolchain.llvmCov),
        ("check_wasm_target", .bool settings.toolchain.checkWasmTarget),
        ("wasm_target", .text settings.toolchain.wasmTarget)]),
     ("build", .record
       [("marker", .text settings.build.marker),
        ("target_triple", .text settings.build.targetTriple),
        ("rustflags", .ofTexts settings.build.flags)]),
     ("merge", .record [("extra_args", .ofTexts settings.mergeArguments)]),
     ("report", .record [("extra_args", .ofTexts settings.reportArguments)]),
     ("logging", .record
       [("level", .text settings.logging.level.name),
        ("file", .ofString? settings.logging.file)])]

end Settings

end WasmCoverage
