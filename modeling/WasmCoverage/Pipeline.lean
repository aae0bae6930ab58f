import WasmCoverage.Discovery
import WasmCoverage.Ir.File
import WasmCoverage.Settings.Basic
import WasmCoverage.Summary.Encoding
import WasmCoverage.Summary.Markdown
import WasmCoverage.Tool.Adapter
import WasmCoverage.Toolchain.Probe
import WasmCoverage.Workspace

/-!
# The pipeline

Two phases turn a build and its samples into reports.

* `finalize` takes the instrumented modules of a build: their IR is neutralized, compiled to an
  object and staged together with a copy of the module.
* `report` merges the raw samples of every binary, finds the object with the same logical key and
  has the coverage tool render the report.

What goes wrong with one item is written to the journal and recorded in the item's outcome, and
the batch goes on.  A phase fails as a whole only if its input cannot be searched, or if every
item that was attempted failed.
-/

namespace WasmCoverage

open WasmCoverage.Text

/-- What a pipeline works with. -/
structure Pipeline where
  settings : Settings
  toolchain : Toolchain
  workspace : Workspace
  deriving DecidableEq, Repr

namespace Pipeline

/-- The suffix of objects. -/
def objectSuffix : String := ".o"

/-- The document about the last finalization. -/
def finalizeDocument : String := "finalize-summary.md"

/-- The document about the last report run. -/
def reportDocument : String := "summary.md"

/-- The record of the last report run. -/
def reportRecord : String := "summary.json"

/-- Write to the journal of the pipeline. -/
def note (level : LogLevel) (message : String) : Run Unit :=
  journal .pipeline level message

/-- The current directory. -/
def currentDirectory : Run Path := do
  return Disk.pathOf (← get).disk.here

/-- The workspace that the settings name, or the default one. -/
def workspaceFor (settings : Settings) : Run Workspace :=
  match settings.workspaceRoot with
  | some root =>
    if root = "" then defaultWorkspace else Workspace.open_ (.ofText root)
  | none => defaultWorkspace
where
  /-- The workspace under the current directory. -/
  defaultWorkspace : Run Workspace := do
    Workspace.open_ (← Workspace.defaultRoot (← currentDirectory))

/-! ## Finalization -/

/-- Neutralize the IR of a module, compile it and stage a copy of the module; the number of
functions that were neutralized. -/
def stage (pipeline : Pipeline) (tools : Toolbox) (module ir stagedIr object copy : Path) :
    Run Nat := do
  let count ← Ir.neutralizeFile ir stagedIr
  note .debug ("Neutralized " ++ toString count ++ " function(s) in " ++ stagedIr.text)
  let _ ← Tool.compile tools pipeline.toolchain.clang stagedIr object
    pipeline.settings.build.targetTriple
  onDisk (Disk.copyFile module copy)
  return count

/-- The outcome of a module that could not be processed. -/
def failedOutcome (module : Module) (stagedIr : Path) (fault : Fault) : Run ArtifactOutcome := do
  note .warning ("Skipping " ++ module.name ++ ": " ++ fault.message)
  let there ← onDisk (Disk.pathExists stagedIr)
  return { name := module.name, modulePath := module.path.text, status := .failed,
           irPath := if there then some stagedIr.text else none, message := fault.message }

/-- Process a module whose IR is there. -/
def processModule (pipeline : Pipeline) (tools : Toolbox) (staging : Path) (module : Module)
    (ir : Path) : Run ArtifactOutcome := do
  let stagedIr := staging.child (module.name ++ irSuffix)
  let object := staging.child (module.name ++ objectSuffix)
  try
    let count ← pipeline.stage tools module.path ir stagedIr object
      (staging.child module.path.name)
    return { name := module.name, modulePath := module.path.text, status := .processed,
             irPath := some stagedIr.text, objectPath := some object.text,
             neutralized := count }
  catch fault =>
    if fault.isItemFault then failedOutcome module stagedIr fault else throw fault

/-- Finalize one module. -/
def finalizeModule (pipeline : Pipeline) (tools : Toolbox) (staging : Path) (module : Module) :
    Run ArtifactOutcome := do
  note .info ("Processing WASM file: " ++ module.path.text)
  match module.ir? with
  | some ir => pipeline.processModule tools staging module ir
  | none =>
    let complaint := module.complaint?.getD ""
    note .warning ("LL file not found for " ++ module.path.text ++ ": " ++ complaint)
    return { name := module.name, modulePath := module.path.text, status := .irMissing,
             message := complaint }

/-- The number of failed items, if items were attempted and all of them failed. -/
def allFailed? {α : Type} (attempted : α → Bool) (failed : α → Bool) (items : List α) :
    Option Nat :=
  let tried := items.filter attempted
  if tried ≠ [] ∧ tried.all failed then some tried.length else none

/-- Where a document in a directory stands. -/
def placeIn (directory : Path) : Run Markdown.Place := do
  return ⟨← currentDirectory, directory⟩

/-- Finalize the instrumented modules under a build root, or under the staging area. -/
def finalize (pipeline : Pipeline) (tools : Toolbox) (buildRoot : Option Path)
    (forbidden : Forbidden) : Run FinalizeSummary := do
  let staging ← pipeline.workspace.store .staging
  let root ← match buildRoot with
    | some path => onDisk (Disk.resolve path)
    | none => pure staging
  let modules ← discover root pipeline.settings.build.markerOctets forbidden
  note .info ("Found " ++ toString modules.length ++ " instrumented module(s) under " ++ root.text)
  let outcomes ← modules.mapM (pipeline.finalizeModule tools staging)
  let summary : FinalizeSummary := ⟨root.text, staging.text, outcomes⟩
  let document := summary.markdown (← placeIn staging) (← get).clock
  onDisk (Disk.write (staging.child finalizeDocument) (octetsOf document))
  if let some count := allFailed? (fun o : ArtifactOutcome => o.status ≠ .irMissing)
      (fun o => o.status = .failed) outcomes then
    throw (.phase (.modules count))
  note .info ("Processed files have been saved to " ++ staging.text)
  return summary

/-! ## Merging -/

/-- Merge the samples of one group. -/
def mergeGroup (pipeline : Pipeline) (tools : Toolbox) (extra : List String)
    (group : Workspace.Group) : Run MergeOutcome := do
  let profile ← pipeline.workspace.mergedProfile group.name
  note .info ("Merging " ++ toString group.samples.length ++ " profraw file(s) for " ++ group.name)
  -- an old profile must not survive a merge that fails
  onDisk (Disk.removeIfThere profile)
  let outcome : MergeOutcome :=
    { name := group.name, sampleCount := group.samples.length, profilePath := profile.text,
      status := .merged }
  try
    let _ ← Tool.mergeProfiles tools pipeline.toolchain.llvmProfdata group.samples profile extra
    note .info ("Profdata file has been saved to " ++ profile.text)
    return outcome
  catch fault =>
    match fault with
    | .tool failure =>
      note .warning ("Failed to merge profiles for " ++ group.name ++ ": " ++ failure.message)
      onDisk (Disk.removeIfThere profile)
      return { outcome with status := .failed, message := failure.message }
    | _ => throw fault

/-- Merge the samples of every group. -/
def mergeAll (pipeline : Pipeline) (tools : Toolbox) (extra : List String) :
    Run (List MergeOutcome) := do
  let groups ← pipeline.workspace.groups
  groups.mapM (pipeline.mergeGroup tools (pipeline.settings.mergeArguments ++ extra))

/-- Merge the samples of every group; it is a fault if all merges failed. -/
def merge (pipeline : Pipeline) (tools : Toolbox) (extra : List String) :
    Run (List MergeOutcome) := do
  let outcomes ← pipeline.mergeAll tools extra
  if let some count := allFailed? (fun _ => true) (fun o : MergeOutcome => o.status = .failed)
      outcomes then
    throw (.phase (.merges count))
  return outcomes

/-! ## Objects -/

/-- The object for a name in a directory: the one with that name, or else the first with the same
logical key. -/
def objectIn (name : String) (directory : Path) : Disk.Action (Option Path) := do
  let exact := directory.child (name ++ objectSuffix)
  if ← Disk.isFile exact then return some exact
  let entries ← Disk.entriesOf directory
  Disk.firstFile (fun object => Artifact.logicalKey object.stem = Artifact.logicalKey name)
    (entries.filter fun path => Disk.hasSuffix objectSuffix path.name)

/-- The object for a name: from the staging area, or else from the object store. -/
def findObject (pipeline : Pipeline) (name : String) : Run (Option Path) := do
  let staging ← pipeline.workspace.store .staging
  let objects ← pipeline.workspace.store .objects
  match ← onDisk (objectIn name staging) with
  | some object => return some object
  | none => onDisk (objectIn name objects)

/-! ## Reporting -/

/-- Render the report of a binary in place of an old one. -/
def render (pipeline : Pipeline) (tools : Toolbox) (profile object directory : Path)
    (extra : List String) : Run Unit := do
  if ← onDisk (Disk.pathExists directory) then onDisk (Disk.removeTree directory)
  let _ ← Tool.renderReport tools pipeline.toolchain.llvmCov profile object directory extra

/-- Report a binary whose object was found. -/
def reportObject (pipeline : Pipeline) (tools : Toolbox) (extra : List String)
    (merged : MergeOutcome) (object : Path) : Run ReportOutcome := do
  let name := merged.name.lossy
  let directory ← pipeline.workspace.reportDirectory name
  let outcome : ReportOutcome :=
    { name := merged.name, state := .reported, profilePath := some merged.profilePath,
      objectPath := some object.text, reportDirectory := some directory.text }
  try
    pipeline.render tools (.ofText merged.profilePath.lossy) object directory extra
    note .info ("Coverage report has been saved to " ++ directory.text)
    return outcome
  catch fault =>
    if fault.isItemFault then
      note .warning ("Failed to generate coverage report for " ++ name ++ ": " ++ fault.message)
      return { outcome with state := .failed, reportDirectory := none, message := fault.message }
    else throw fault

/-- Report a binary whose samples were merged. -/
def reportMerged (pipeline : Pipeline) (tools : Toolbox) (extra : List String)
    (merged : MergeOutcome) : Run ReportOutcome := do
  let name := merged.name.lossy
  note .info ("Generating coverage report for " ++ name)
  match ← pipeline.findObject name with
  | some object => pipeline.reportObject tools extra merged object
  | none =>
    let staging ← pipeline.workspace.store .staging
    let objects ← pipeline.workspace.store .objects
    note .warning ("Object file not found for " ++ name ++
      "; object files should be placed in " ++ staging.text ++ " or " ++ objects.text)
    return { name := merged.name, state := .objectMissing,
             profilePath := some merged.profilePath, message := "object file not found" }

/-- Report a binary. -/
def reportOne (pipeline : Pipeline) (tools : Toolbox) (extra : List String)
    (merged : MergeOutcome) : Run ReportOutcome :=
  match merged.status with
  | .merged => pipeline.reportMerged tools extra merged
  | .failed => return { name := merged.name, state := .failed, message := merged.message }

/-- Put the record and the document of a report run into the report store. -/
def writeReport (pipeline : Pipeline) (summary : ReportSummary) : Run Unit := do
  let reports ← pipeline.workspace.store .reports
  onDisk (Ir.writeWithDirectories (reports.child reportRecord)
    (octetsOf (summaryText summary.toJson)))
  let document := summary.markdown (← placeIn reports) (← get).clock
  onDisk (Disk.write (reports.child reportDocument) (octetsOf document))

/-- Merge the samples of every binary and report it. -/
def report (pipeline : Pipeline) (tools : Toolbox) (extra : List String) : Run ReportSummary := do
  let merges ← pipeline.mergeAll tools []
  let reports ← merges.mapM
    (pipeline.reportOne tools (pipeline.settings.reportArguments ++ extra))
  let summary : ReportSummary := ⟨merges, reports⟩
  pipeline.writeReport summary
  if let some count := allFailed? (fun o : ReportOutcome => o.state ≠ .objectMissing)
      (fun o => o.state = .failed) reports then
    throw (.phase (.reports count))
  if merges.isEmpty then
    let samples ← pipeline.workspace.store .rawProfiles
    note .warning ("No raw profile samples found in " ++ samples.text)
  return summary

/-! ## Maintenance -/

/-- The words for a truth value. -/
def flagText (flag : Bool) : String :=
  if flag then "True" else "False"

/-- What the journal says about a reset. -/
def cleanedMessage (root : Path) (full : Bool) : String :=
  "Cleaned workspace " ++ root.text ++ " (full=" ++ flagText full ++ ")"

/-- Reset the workspace. -/
def clean (pipeline : Pipeline) (full : Bool) : Run Unit := do
  pipeline.workspace.reset full
  note .info (cleanedMessage (← pipeline.workspace.root) full)

end Pipeline

end WasmCoverage
