import WasmCoverage.Json.Basic

/-!
# Summaries of a run

Each phase leaves a summary with one outcome per item: per module that was finalized, per group
of samples that was merged, per binary that was to be reported.  Outcomes are values; no later
phase changes them.
-/

namespace WasmCoverage

/-! ## Finalization -/

/-- How a module fared. -/
inductive ArtifactStatus where
  | processed
  | irMissing
  | failed
  deriving DecidableEq, Repr

namespace ArtifactStatus

/-- The statuses. -/
def all : List ArtifactStatus := [processed, irMissing, failed]

/-- The name of a status. -/
def name : ArtifactStatus → String
  | processed => "processed"
  | irMissing => "ir_missing"
  | failed => "failed"

/-- The status with a name. -/
def ofName? (text : String) : Option ArtifactStatus :=
  all.find? fun status => status.name = text

/-- **A status is found by its name.** -/
theorem ofName?_name (status : ArtifactStatus) : ofName? status.name = some status := by
  cases status <;> decide

end ArtifactStatus

/-- The outcome of finalizing one module. -/
structure ArtifactOutcome where
  name : LooseText
  modulePath : LooseText
  status : ArtifactStatus
  irPath : Option LooseText := none
  objectPath : Option LooseText := none
  /-- How many functions were neutralized. -/
  neutralized : Int := 0
  message : LooseText := ""
  deriving DecidableEq, Repr

/-- The outcomes of one finalization. -/
structure FinalizeSummary where
  buildRoot : LooseText
  stagingDirectory : LooseText
  outcomes : List ArtifactOutcome := []
  deriving DecidableEq, Repr

/-- The outcomes of the modules that were processed. -/
def FinalizeSummary.processed (summary : FinalizeSummary) : List ArtifactOutcome :=
  summary.outcomes.filter fun outcome => outcome.status = .processed

/-! ## Merging -/

/-- How a merge fared. -/
inductive MergeStatus where
  | merged
  | failed
  deriving DecidableEq, Repr

namespace MergeStatus

/-- The statuses. -/
def all : List MergeStatus := [merged, failed]

/-- The name of a status. -/
def name : MergeStatus → String
  | merged => "merged"
  | failed => "failed"

/-- The status with a name. -/
def ofName? (text : String) : Option MergeStatus :=
  all.find? fun status => status.name = text

/-- **A status is found by its name.** -/
theorem ofName?_name (status : MergeStatus) : ofName? status.name = some status := by
  cases status <;> decide

end MergeStatus

/-- The outcome of merging the samples of one binary. -/
structure MergeOutcome where
  name : LooseText
  sampleCount : Int
  profilePath : LooseText
  status : MergeStatus
  message : LooseText := ""
  deriving DecidableEq, Repr

/-! ## Reporting -/

/-- How far a binary came: from samples to a merged profile to an object to a report. -/
inductive ReportState where
  | noSamples
  | merged
  | objectMissing
  | reported
  | failed
  deriving DecidableEq, Repr

namespace ReportState

/-- The states. -/
def all : List ReportState := [noSamples, merged, objectMissing, reported, failed]

/-- The name of a state. -/
def name : ReportState → String
  | noSamples => "no_samples"
  | merged => "merged"
  | objectMissing => "object_missing"
  | reported => "reported"
  | failed => "failed"

/-- The state with a name. -/
def ofName? (text : String) : Option ReportState :=
  all.find? fun state => state.name = text

/-- **A state is found by its name.** -/
theorem ofName?_name (state : ReportState) : ofName? state.name = some state := by
  cases state <;> decide

end ReportState

/-- The outcome of reporting one binary. -/
structure ReportOutcome where
  name : LooseText
  state : ReportState := .noSamples
  profilePath : Option LooseText := none
  objectPath : Option LooseText := none
  reportDirectory : Option LooseText := none
  message : LooseText := ""
  deriving DecidableEq, Repr

/-- The outcomes of one report run. -/
structure ReportSummary where
  merges : List MergeOutcome := []
  reports : List ReportOutcome := []
  deriving DecidableEq, Repr

namespace ReportSummary

/-- The outcomes of the binaries with a report. -/
def reported (summary : ReportSummary) : List ReportOutcome :=
  summary.reports.filter fun outcome => outcome.state = .reported

/-- The outcomes of the binaries without an object. -/
def skipped (summary : ReportSummary) : List ReportOutcome :=
  summary.reports.filter fun outcome => outcome.state = .objectMissing

end ReportSummary

end WasmCoverage
