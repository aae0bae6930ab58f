import WasmCoverage.Disk.Listing
import WasmCoverage.World

/-!
# Finding instrumented modules

The build tool leaves modules in `deps` directories, and the textual IR of a module beside it.  A
search under a root looks into every directory named `deps`, at any depth, and takes the `.wasm`
files that contain the marker, in the order of their paths.

The search goes down directories, not links; `deps` itself may be a link to a directory.  A
candidate that cannot be opened is reported in the journal and left out.
-/

namespace WasmCoverage

open WasmCoverage.Text

/-- The marker of coverage instrumentation unless another one is configured. -/
def defaultMarker : String := "__llvm_profile_init"

/-- The suffix of modules. -/
def moduleSuffix : String := ".wasm"

/-- The suffix of textual IR. -/
def irSuffix : String := ".ll"

/-- The name of the directories that modules are in. -/
def moduleDirectory : String := "deps"

/-- The IR of a module: it is there, or it should be. -/
inductive Pairing where
  | found (ir : Path)
  | missing (ir : Path)
  deriving DecidableEq, Repr

/-- A module that was found. -/
structure Module where
  path : Path
  pairing : Pairing
  deriving DecidableEq, Repr

namespace Module

/-- The logical name: the stem of the file. -/
def name (module : Module) : String :=
  module.path.stem

/-- The path of the IR, if it is there. -/
def ir? (module : Module) : Option Path :=
  match module.pairing with
  | .found ir => some ir
  | .missing _ => none

/-- What is said about IR that is not there. -/
def complaint? (module : Module) : Option String :=
  match module.pairing with
  | .found _ => none
  | .missing ir => some (Fault.unpaired ir).message

end Module

/-! ## Candidates -/

namespace Disk

/-- A location and the locations of all directories below it. -/
def directoriesFrom (disk : Disk) (root : Location) : List Location :=
  root :: disk.entries.filterMap fun entry =>
    if entry.2 = .directory ∧ entry.1 ≠ root ∧ root <:+ entry.1 then some entry.1 else none

/-- The entries of a directory that look like modules, if the path leads to a directory. -/
def modulesIn (directory : Path) : Action (List Path) := do
  if ← isDirectory directory then filesWithSuffix directory moduleSuffix else return []

/-- The candidates in the module directories of some directories. -/
def candidatesIn : List Location → Action (List Path)
  | [] => return []
  | directory :: rest => do
    let found ← modulesIn ((pathOf directory).child moduleDirectory)
    return found ++ (← candidatesIn rest)

/-- The candidates under a directory, in order. -/
def candidates (root : Path) : Action (List Path) := do
  let location ← locate root true
  let disk ← get
  return Path.sort (← candidatesIn (disk.directoriesFrom location))

end Disk

/-! ## Pairing -/

/-- The IR that belongs to a module. -/
def pairing (module : Path) : Run Pairing :=
  match module.withSuffix? irSuffix with
  | none => throw (.unnamed module)
  | some ir => do
    if ← onDisk (Disk.isFile ir) then return .found ir else return .missing ir

/-- The path of the IR that belongs to a module. -/
def findIr (module : Path) : Run Path := do
  match ← pairing module with
  | .found ir => return ir
  | .missing ir => throw (.unpaired ir)

/-! ## Discovery -/

/-- Which files may not be opened. -/
abbrev Forbidden := Path → Bool

/-- The octets of a candidate. -/
def readCandidate (forbidden : Forbidden) (path : Path) : Disk.Action Octets := do
  if forbidden path then Disk.refuse .denied path
  Disk.read path

/-- Is a candidate instrumented?  One that cannot be read is not. -/
def isInstrumented (forbidden : Forbidden) (marker : Octets) (path : Path) : Run Bool := do
  if marker = [] then throw .emptyMarker
  try
    let data ← onDisk (readCandidate forbidden path)
    return (Marker.contains? marker Marker.defaultChunk data).getD false
  catch fault =>
    if fault.isItemFault then
      journal .discovery .warning
        ("Skipping unreadable module " ++ path.text ++ ": " ++ fault.message)
      return false
    else throw fault

/-- The instrumented modules among some candidates. -/
def modulesAmong (forbidden : Forbidden) (marker : Octets) : List Path → Run (List Module)
  | [] => return []
  | path :: rest => do
    if ← isInstrumented forbidden marker path then
      let module : Module := ⟨path, ← pairing path⟩
      return module :: (← modulesAmong forbidden marker rest)
    else modulesAmong forbidden marker rest

/-- The instrumented modules under a root, in the order of their paths. -/
def discover (root : Path) (marker : Octets) (forbidden : Forbidden := fun _ => false) :
    Run (List Module) := do
  unless ← onDisk (Disk.isDirectory root) do throw (.scan (.notDirectory root))
  let base ← onDisk (Disk.resolve root)
  let found ← onDiskOr (fun error => .scan (.failed base error)) (Disk.candidates base)
  modulesAmong forbidden marker found

end WasmCoverage
