import WasmCoverage.Disk.Listing
import WasmCoverage.World

/-!
# The workspace

Everything a coverage run produces lives under one root directory:

```text
raw-profiles/<name>/<sample>.profraw
merged-profiles/<name>.profdata
objects/
staging/
reports/<name>/index.html
```

A store is made when it is first asked for.  A workspace may exist before it has a root; once it
has one it cannot be moved.  Raw samples are created, never overwritten, and grouped by the
directory they are in.
-/

namespace WasmCoverage

open WasmCoverage.Text

/-- The stores of a workspace. -/
inductive Store where
  | rawProfiles
  | mergedProfiles
  | objects
  | staging
  | reports
  deriving DecidableEq, Repr

namespace Store

/-- The directory of a store. -/
def directory : Store → String
  | rawProfiles => "raw-profiles"
  | mergedProfiles => "merged-profiles"
  | objects => "objects"
  | staging => "staging"
  | reports => "reports"

/-- The stores that a reset empties.  The staging area keeps the build output. -/
def cleared : List Store := [rawProfiles, mergedProfiles, objects, reports]

end Store

/-- The suffix of raw samples. -/
def rawSuffix : String := ".profraw"

/-- The suffix of merged profiles. -/
def mergedSuffix : String := ".profdata"

/-- A workspace, which may have a root. -/
structure Workspace where
  bound? : Option Path := none
  deriving DecidableEq, Repr

namespace Workspace

/-! ## The root -/

/-- The name of the default root in the current directory. -/
def defaultName : String := "wasmcov"

/-- The default root for a directory. -/
def defaultRoot (directory : Path) : Run Path :=
  onDisk (Disk.resolve (directory.child defaultName))

/-- The root, if there is one. -/
def root (workspace : Workspace) : Run Path :=
  match workspace.bound? with
  | some root => return root
  | none => throw (.workspace .unbound)

/-- Give a workspace its root, and make that directory. -/
def bind (workspace : Workspace) (asked : Path) : Run Workspace := do
  let asked ← onDisk (Disk.resolve asked)
  if let some root := workspace.bound? then
    if root ≠ asked then throw (.workspace (.bound root asked))
  onDiskOr (fun error => .workspace (.notMade asked error)) (Disk.makeDirectories asked)
  return ⟨some asked⟩

/-- The workspace with a root. -/
def open_ (root : Path) : Run Workspace :=
  bind {} root

/-! ## Stores -/

/-- The directory of a store, made if need be. -/
def store (workspace : Workspace) (store : Store) : Run Path := do
  let directory := (← workspace.root).child store.directory
  onDiskOr (fun error => .workspace (.notMade directory error)) (Disk.makeDirectories directory)
  return directory

/-- The directory name made of a logical name. -/
def directoryName (name : String) : Run String :=
  match Artifact.directoryName name with
  | .ok name => return name
  | .error bad => throw (.workspace (.badName bad))

/-- The directory of the raw samples of a name, made if need be. -/
def sampleDirectory (workspace : Workspace) (name : String) : Run Path := do
  let samples ← workspace.store .rawProfiles
  let directory := samples.child (← directoryName name)
  onDisk (Disk.makeDirectories directory)
  return directory

/-- A path for the next raw sample of a name. -/
def newSamplePath (workspace : Workspace) (name : String) : Run Path := do
  let directory ← workspace.sampleDirectory name
  let number ← freshNumber
  let moment := (← get).clock
  return directory.child (moment.sampleId number ++ rawSuffix)

/-- Store a raw sample of a name. -/
def storeSample (workspace : Workspace) (name : String) (data : Octets) : Run Path := do
  let path ← workspace.newSamplePath name
  onDisk (Disk.create path data)
  return path

/-- The path of the merged profile of a name. -/
def mergedProfile (workspace : Workspace) (name : String) : Run Path := do
  let profiles ← workspace.store .mergedProfiles
  return profiles.child ((← directoryName name) ++ mergedSuffix)

/-- The directory of the report of a name; the coverage tool makes it. -/
def reportDirectory (workspace : Workspace) (name : String) : Run Path := do
  let reports ← workspace.store .reports
  return reports.child (← directoryName name)

/-! ## Groups of samples -/

/-- The raw samples of one binary. -/
structure Group where
  name : String
  samples : List Path
  deriving DecidableEq, Repr

/-- The groups with at least one sample among the entries of the raw store. -/
def groupsAmong : List Path → Disk.Action (List Group)
  | [] => return []
  | entry :: rest => do
    if ← Disk.isDirectory entry then
      let samples ← Disk.filesWithSuffix entry rawSuffix
      let others ← groupsAmong rest
      return if samples.isEmpty then others else ⟨entry.name, samples⟩ :: others
    else groupsAmong rest

/-- The groups of raw samples, in order; a directory without samples is no group. -/
def groups (workspace : Workspace) : Run (List Group) := do
  let samples ← workspace.store .rawProfiles
  onDisk do groupsAmong (← Disk.entriesOf samples)

/-! ## Reset -/

/-- Remove a directory with what is in it, if it is there, and make it again. -/
def renew (directory : Path) : Disk.Action Unit := do
  if ← Disk.pathExists directory then Disk.removeTree directory
  Disk.makeDirectories directory

/-- Empty the workspace: all of it, or the stores that are not build output. -/
def reset (workspace : Workspace) (full : Bool) : Run Unit := do
  let root ← workspace.root
  onDiskOr (fun error => .workspace (.notReset root error)) do
    if full then renew root
    else Store.cleared.forM fun store => renew (root.child store.directory)

end Workspace

end WasmCoverage
