import WasmCoverage.Settings.Basic
import WasmCoverage.Template.Outline
import WasmCoverage.Yaml.Document

/-!
# Settings as a document

The effective settings of a run are kept in the workspace, section by section, in the order in
which they are described.
-/

namespace WasmCoverage.Settings

open WasmCoverage.Yaml

/-- The sections of the settings. -/
def toSections (settings : Settings) : List (String × Section) :=
  [("workspace", [("root", .ofText? settings.workspaceRoot)]),
   ("toolchain",
     [("llvm_version", .ofText? settings.toolchain.llvmVersion),
      ("clang", .ofText? settings.toolchain.clang),
      ("llvm_profdata", .ofText? settings.toolchain.llvmProfdata),
      ("llvm_cov", .ofText? settings.toolchain.llvmCov),
      ("check_wasm_target", .flag settings.toolchain.checkWasmTarget),
      ("wasm_target", .text settings.toolchain.wasmTarget)]),
   ("build",
     [("marker", .text settings.build.marker),
      ("target_triple", .text settings.build.targetTriple),
      ("rustflags", .texts settings.build.flags)]),
   ("merge", [("extra_args", .texts settings.mergeArguments)]),
   ("report", [("extra_args", .texts settings.reportArguments)]),
   ("logging",
     [("level", .text settings.logging.level.name),
      ("file", .ofText? settings.logging.file)])]

/-- The settings as a document.  References in them are kept, but they must be well formed. -/
def document? (settings : Settings) : Option String :=
  if Template.isAccepted settings.toJson then some (Yaml.document settings.toSections) else none

end WasmCoverage.Settings
