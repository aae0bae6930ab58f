import WasmCoverage.Json.Writer
import WasmCoverage.Summary.Basic

/-!
# Summaries as JSON

A summary is stored as a record with its keys in alphabetical order, one entry per line and a
line feed at the end.
-/

namespace WasmCoverage

/-- An outcome of finalization as JSON. -/
def ArtifactOutcome.toJson (outcome : ArtifactOutcome) : Json :=
  .record
    [("functions_neutralized", .integer outcome.neutralized),
     ("ir_path", .ofText? outcome.irPath),
     ("message", .text outcome.message),
     ("module_path", .text outcome.modulePath),
     ("name", .text outcome.name),
     ("object_path", .ofText? outcome.objectPath),
     ("status", .text outcome.status.name)]

/-- A summary of finalization as JSON. -/
def FinalizeSummary.toJson (summary : FinalizeSummary) : Json :=
  .record
    [("build_root", .text summary.buildRoot),
     ("outcomes", .list (summary.outcomes.map ArtifactOutcome.toJson)),
     ("staging_dir", .text summary.stagingDirectory)]

/-- An outcome of merging as JSON. -/
def MergeOutcome.toJson (outcome : MergeOutcome) : Json :=
  .record
    [("message", .text outcome.message),
     ("name", .text outcome.name),
     ("profile_path", .text outcome.profilePath),
     ("sample_count", .integer outcome.sampleCount),
     ("status", .text outcome.status.name)]

/-- An outcome of reporting as JSON. -/
def ReportOutcome.toJson (outcome : ReportOutcome) : Json :=
  .record
    [("message", .text outcome.message),
     ("name", .text outcome.name),
     ("object_path", .ofText? outcome.objectPath),
     ("profile_path", .ofText? outcome.profilePath),
     ("report_dir", .ofText? outcome.reportDirectory),
     ("state", .text outcome.state.name)]

/-- A summary of reporting as JSON. -/
def ReportSummary.toJson (summary : ReportSummary) : Json :=
  .record
    [("merges", .list (summary.merges.map MergeOutcome.toJson)),
     ("reports", .list (summary.reports.map ReportOutcome.toJson))]

/-- The text of a summary file. -/
def summaryText (summary : Json) : String :=
  summary.pretty ++ "\n"

end WasmCoverage
