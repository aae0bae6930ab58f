import WasmCoverage.Json.Reader
import WasmCoverage.Payload.Reading
import WasmCoverage.Summary.Basic
import WasmCoverage.Text.Blank

/-!
# Summaries out of payloads

A summary is read from a payload field by field; keys that no field has are passed over.  Paths
must be absolute and counts must not be negative.
-/

namespace WasmCoverage

open WasmCoverage.Payload

namespace ArtifactOutcome

/-- The rules of an outcome, in the order of its fields. -/
def rules (outcome : ArtifactOutcome) : List (Option Flaw) :=
  [absolute "module_path" outcome.modulePath,
   absolute? "ir_path" outcome.irPath,
   absolute? "object_path" outcome.objectPath,
   natural "functions_neutralized" outcome.neutralized]

/-- An outcome of finalization. -/
def read : Json → Reading ArtifactOutcome :=
  readFields fun source => Reading.check rules <|
    ArtifactOutcome.mk <$> source.required "name" readText
      <*> source.required "module_path" readText
      <*> source.required "status" (readChoice ArtifactStatus.ofName?)
      <*> source.optional "ir_path" none readText?
      <*> source.optional "object_path" none readText?
      <*> source.optional "functions_neutralized" 0 readInteger
      <*> source.optional "message" "" readText

end ArtifactOutcome

namespace FinalizeSummary

/-- The rules of a summary, in the order of its fields. -/
def rules (summary : FinalizeSummary) : List (Option Flaw) :=
  [absolute "build_root" summary.buildRoot, absolute "staging_dir" summary.stagingDirectory]

/-- A summary of finalization. -/
def ofSource (source : Source) : Reading FinalizeSummary :=
  Reading.check rules <|
    FinalizeSummary.mk <$> source.required "build_root" readText
      <*> source.required "staging_dir" readText
      <*> source.optional "outcomes" [] (readList ArtifactOutcome.read)

end FinalizeSummary

namespace MergeOutcome

/-- The rules of an outcome, in the order of its fields. -/
def rules (outcome : MergeOutcome) : List (Option Flaw) :=
  [natural "sample_count" outcome.sampleCount, absolute "profile_path" outcome.profilePath]

/-- An outcome of merging. -/
def read : Json → Reading MergeOutcome :=
  readFields fun source => Reading.check rules <|
    MergeOutcome.mk <$> source.required "name" readText
      <*> source.required "sample_count" readInteger
      <*> source.required "profile_path" readText
      <*> source.required "status" (readChoice MergeStatus.ofName?)
      <*> source.optional "message" "" readText

end MergeOutcome

namespace ReportOutcome

/-- The rules of an outcome, in the order of its fields. -/
def rules (outcome : ReportOutcome) : List (Option Flaw) :=
  [absolute? "profile_path" outcome.profilePath,
   absolute? "object_path" outcome.objectPath,
   absolute? "report_dir" outcome.reportDirectory]

/-- An outcome of reporting. -/
def read : Json → Reading ReportOutcome :=
  readFields fun source => Reading.check rules <|
    ReportOutcome.mk <$> source.required "name" readText
      <*> source.optional "state" .noSamples (readChoice ReportState.ofName?)
      <*> source.optional "profile_path" none readText?
      <*> source.optional "object_path" none readText?
      <*> source.optional "report_dir" none readText?
      <*> source.optional "message" "" readText

end ReportOutcome

/-- A summary of reporting. -/
def ReportSummary.ofSource (source : Source) : Reading ReportSummary :=
  ReportSummary.mk <$> source.optional "merges" [] (readList MergeOutcome.read)
    <*> source.optional "reports" [] (readList ReportOutcome.read)

/-! ## Files -/

/-- Why a summary could not be loaded. -/
inductive LoadFault where
  | unreadable (fault : Json.Fault)
  /-- The payload has no fields at all. -/
  | noFields
  | flawed (leaves : List Leaf)
  deriving DecidableEq, Repr

/-- A summary out of a payload. -/
def ofPayload {α : Type} (ofSource : Source → Reading α) (payload : Json) :
    Except LoadFault α :=
  match sourceOf? payload with
  | none => .error .noFields
  | some source =>
    match ofSource source with
    | .ok summary => .ok summary
    | .flawed leaves => .error (.flawed leaves)

/-- A summary out of the text of a file, in which values nest no deeper than `depth`. -/
def ofText {α : Type} (depth : Nat) (ofSource : Source → Reading α) (text : String) :
    Except LoadFault α :=
  match Json.read depth (Text.unifyLineFeeds text.toList) with
  | .error fault => .error (.unreadable fault)
  | .ok payload => ofPayload ofSource payload

/-- The summary of finalization in the text of a file. -/
def FinalizeSummary.ofText (depth : Nat) (text : String) : Except LoadFault FinalizeSummary :=
  WasmCoverage.ofText depth FinalizeSummary.ofSource text

/-- The summary of reporting in the text of a file. -/
def ReportSummary.ofText (depth : Nat) (text : String) : Except LoadFault ReportSummary :=
  WasmCoverage.ofText depth ReportSummary.ofSource text

end WasmCoverage
