import WasmCoverage.Payload.Record
import WasmCoverage.Summary.Basic
import WasmCoverage.Toolchain.Probe

/-!
# The records of a run

What a run finds, is told and leaves are values of types of their own.  Outside they are records:
the `form` of a type lists the fields of its record with their checks, and `fields` are those of a
value.
-/

namespace WasmCoverage

open WasmCoverage.Payload

namespace Module

/-- The record of a module. -/
def form : List FieldRule :=
  [⟨"path", none, [.text, .path?]⟩,
   ⟨"name", none, [.text]⟩,
   ⟨"ir_path", some .null, [.text?, .path?]⟩,
   ⟨"pairing_error", some .null, []⟩]

/-- The fields of a module. -/
def fields (module : Module) : List (Key × Json) :=
  [("path", .text module.path.text),
   ("name", .text module.name),
   ("ir_path", .ofString? (module.ir?.map Path.text)),
   ("pairing_error", .ofString? module.complaint?)]

end Module

namespace Toolchain

/-- The record of the tools. -/
def form : List FieldRule :=
  [⟨"llvm_version", none, [.text]⟩,
   ⟨"is_nightly", some (.bool true), [.flag]⟩,
   ⟨"clang", none, [.text]⟩,
   ⟨"llvm_profdata", none, [.text]⟩,
   ⟨"llvm_cov", none, [.text]⟩]

/-- The fields of the tools. -/
def fields (toolchain : Toolchain) : List (Key × Json) :=
  [("llvm_version", .text toolchain.llvmVersion),
   ("is_nightly", .bool toolchain.nightly),
   ("clang", .text toolchain.clang),
   ("llvm_profdata", .text toolchain.llvmProfdata),
   ("llvm_cov", .text toolchain.llvmCov)]

end Toolchain

namespace ToolchainSettings

/-- The record of the choice of tools. -/
def form : List FieldRule :=
  [⟨"llvm_version", some .null, []⟩,
   ⟨"clang", some .null, [.text?]⟩,
   ⟨"llvm_profdata", some .null, [.text?]⟩,
   ⟨"llvm_cov", some .null, [.text?]⟩,
   ⟨"check_wasm_target", some (.bool true), [.flag]⟩,
   ⟨"wasm_target", some (.text ({} : ToolchainSettings).wasmTarget), [.text]⟩]

/-- The fields of the choice of tools. -/
def fields (settings : ToolchainSettings) : List (Key × Json) :=
  [("llvm_version", .ofString? settings.llvmVersion),
   ("clang", .ofString? settings.clang),
   ("llvm_profdata", .ofString? settings.llvmProfdata),
   ("llvm_cov", .ofString? settings.llvmCov),
   ("check_wasm_target", .bool settings.checkWasmTarget),
   ("wasm_target", .text settings.wasmTarget)]

end ToolchainSettings

namespace ArtifactOutcome

/-- The record of the outcome of finalizing a module. -/
def form : List FieldRule :=
  [⟨"name", none, [.text]⟩,
   ⟨"module_path", none, [.text, .path?]⟩,
   ⟨"status", none, [.text]⟩,
   ⟨"ir_path", some .null, [.path?]⟩,
   ⟨"object_path", some .null, [.path?]⟩,
   ⟨"functions_neutralized", some (.integer 0), [.whole, .natural]⟩,
   ⟨"message", some (.text ""), [.text]⟩]

/-- The fields of an outcome. -/
def fields (outcome : ArtifactOutcome) : List (Key × Json) :=
  [("name", .text outcome.name),
   ("module_path", .text outcome.modulePath),
   ("status", .text outcome.status.name),
   ("ir_path", .ofText? outcome.irPath),
   ("object_path", .ofText? outcome.objectPath),
   ("functions_neutralized", .integer outcome.neutralized),
   ("message", .text outcome.message)]

end ArtifactOutcome

namespace FinalizeSummary

/-- The record of a summary of finalization. -/
def form : List FieldRule :=
  [⟨"build_root", none, [.text, .path?]⟩,
   ⟨"staging_dir", none, [.text, .path?]⟩,
   ⟨"outcomes", some (.list []), []⟩]

/-- The fields of a summary. -/
def fields (summary : FinalizeSummary) : List (Key × Json) :=
  [("build_root", .text summary.buildRoot),
   ("staging_dir", .text summary.stagingDirectory),
   ("outcomes", .list (summary.outcomes.map fun outcome => .record outcome.fields))]

end FinalizeSummary

namespace MergeOutcome

/-- The record of the outcome of merging samples. -/
def form : List FieldRule :=
  [⟨"name", none, [.text]⟩,
   ⟨"sample_count", none, [.whole, .natural]⟩,
   ⟨"profile_path", none, [.text, .path?]⟩,
   ⟨"status", none, [.text]⟩,
   ⟨"message", some (.text ""), [.text]⟩]

/-- The fields of an outcome. -/
def fields (outcome : MergeOutcome) : List (Key × Json) :=
  [("name", .text outcome.name),
   ("sample_count", .integer outcome.sampleCount),
   ("profile_path", .text outcome.profilePath),
   ("status", .text outcome.status.name),
   ("message", .text outcome.message)]

end MergeOutcome

namespace ReportOutcome

/-- The record of the outcome of reporting a binary. -/
def form : List FieldRule :=
  [⟨"name", none, [.text]⟩,
   ⟨"state", some (.text "no_samples"), [.text]⟩,
   ⟨"profile_path", some .null, [.path?]⟩,
   ⟨"object_path", some .null, [.path?]⟩,
   ⟨"report_dir", some .null, [.path?]⟩,
   ⟨"message", some (.text ""), [.text]⟩]

/-- The fields of an outcome. -/
def fields (outcome : ReportOutcome) : List (Key × Json) :=
  [("name", .text outcome.name),
   ("state", .text outcome.state.name),
   ("profile_path", .ofText? outcome.profilePath),
   ("object_path", .ofText? outcome.objectPath),
   ("report_dir", .ofText? outcome.reportDirectory),
   ("message", .text outcome.message)]

end ReportOutcome

namespace ReportSummary

/-- The record of a summary of reporting. -/
def form : List FieldRule :=
  [⟨"merges", some (.list []), []⟩, ⟨"reports", some (.list []), []⟩]

/-- The fields of a summary. -/
def fields (summary : ReportSummary) : List (Key × Json) :=
  [("merges", .list (summary.merges.map fun outcome => .record outcome.fields)),
   ("reports", .list (summary.reports.map fun outcome => .record outcome.fields))]

end ReportSummary

/-- The forms of the records by their names. -/
def recordForms : List (String × List FieldRule) :=
  [("CompiledModule", Module.form),
   ("Toolchain", Toolchain.form),
   ("ArtifactOutcome", ArtifactOutcome.form),
   ("FinalizeSummary", FinalizeSummary.form),
   ("MergeOutcome", MergeOutcome.form),
   ("ReportOutcome", ReportOutcome.form),
   ("ReportSummary", ReportSummary.form)]

end WasmCoverage
