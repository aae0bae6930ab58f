import WasmCoverage.Artifact.Marker
import WasmCoverage.Artifact.Name
import WasmCoverage.Cargo.Messages
import WasmCoverage.Disk.Error
import WasmCoverage.Ir.Neutralize
import WasmCoverage.Tool.Failure
import WasmCoverage.Toolchain.Version

/-!
# What can go wrong

Every way in which an operation on a workspace can fail, by its cause.  A fault says what happened
and to which path, name or tool; the words for it are given by one function per family of faults.
-/

namespace WasmCoverage

open WasmCoverage.Text

/-- Why a build output cannot be searched for modules. -/
inductive ScanFault where
  | notDirectory (root : Path)
  | failed (root : Path) (error : Disk.Error)
  deriving DecidableEq, Repr

/-- The wording of a fault of the search. -/
def ScanFault.message : ScanFault → String
  | notDirectory root =>
    "Build output directory " ++ root.text ++ " does not exist or is not a directory."
  | failed root error => "Failed to scan " ++ root.text ++ ": " ++ error.message

/-- Why the IR of a module cannot be neutralized. -/
inductive TransformFault where
  | unreadable (source : Path) (error : Disk.Error)
  | malformed (source : Path) (fault : Ir.CutFault)
  | unwritable (target : Path) (error : Disk.Error)
  deriving DecidableEq, Repr

/-- The wording of a fault of neutralization. -/
def TransformFault.message : TransformFault → String
  | unreadable source error => "Failed to open LL file " ++ source.text ++ ": " ++ error.message
  | malformed source fault => source.text ++ ": " ++ fault.message
  | unwritable target error => "Failed to write LL file " ++ target.text ++ ": " ++ error.message

/-- What is wrong with a workspace, or with a name in it. -/
inductive WorkspaceFault where
  | badName (bad : Artifact.BadName)
  | unbound
  | bound (root asked : Path)
  | notMade (directory : Path) (error : Disk.Error)
  | notReset (root : Path) (error : Disk.Error)
  deriving DecidableEq, Repr

/-- The wording of a fault of a workspace. -/
def WorkspaceFault.message : WorkspaceFault → String
  | badName bad => bad.message
  | unbound => "Workspace root not set. Use from_root() or set_root()."
  | bound root asked =>
    "Workspace root already set to " ++ root.text ++ "; refusing to move it to " ++ asked.text
  | notMade directory error =>
    "Failed to create workspace directory " ++ directory.text ++ ": " ++ error.message
  | notReset root error => "Failed to reset workspace " ++ root.text ++ ": " ++ error.message

/-- A phase of which every item failed. -/
inductive PhaseFault where
  | modules (count : Nat)
  | merges (count : Nat)
  | reports (count : Nat)
  deriving DecidableEq, Repr

/-- The wording of a failed phase. -/
def PhaseFault.message : PhaseFault → String
  | modules count =>
    "All " ++ toString count ++ " module(s) failed to process; see warnings above."
  | merges count =>
    "All " ++ toString count ++ " profile merge(s) failed; see warnings above."
  | reports count => "All " ++ toString count ++ " report(s) failed; see warnings above."

/-- What is missing from the toolchain. -/
inductive ToolchainFault where
  | noTool (name : String)
  | noCompiler (failure : Tool.Failure)
  | noManager (failure : Tool.Failure)
  | unreadableReport (output : String)
  | noTarget (nightly : Bool) (target : String)
  deriving DecidableEq, Repr

/-- The version that a tool's name asks for: what follows its last dash. -/
def wantedVersion (name : String) : String :=
  if name.toList.contains '-' then
    String.ofList (name.toList.reverse.takeWhile (· ≠ '-')).reverse
  else "unknown"

/-- The wording of what is missing. -/
def ToolchainFault.message : ToolchainFault → String
  | noTool name =>
    "Missing command: " ++ name ++ ". Please install LLVM version matching rustc LLVM version, " ++
      "which is " ++ wantedVersion name ++
      ".\nFor more information, check https://apt.llvm.org/"
  | noCompiler failure => "rustc is not available: " ++ failure.message
  | noManager failure => "rustup is not available: " ++ failure.message
  | unreadableReport output => Toolchain.unreadableReport output
  | noTarget nightly target =>
    "The " ++ (if nightly then "nightly " else "") ++ target ++ " target is not installed.\n" ++
      "You can install it by using the following command:\n" ++
      "rustup target add " ++ target ++ (if nightly then " --toolchain=nightly" else "")

/-- What can go wrong. -/
inductive Fault where
  | scan (fault : ScanFault)
  /-- The IR file that should stand beside a module is not there. -/
  | unpaired (ir : Path)
  | transform (fault : TransformFault)
  | workspace (fault : WorkspaceFault)
  | phase (fault : PhaseFault)
  | toolchain (fault : ToolchainFault)
  | tool (failure : Tool.Failure)
  | disk (error : Disk.Error)
  | messages (fault : Cargo.MessageFault)
  | emptyMarker
  /-- There are no samples to merge. -/
  | noSamples
  /-- A path has no last name to work with. -/
  | unnamed (path : Path)
  /-- A command has no words. -/
  | noCommand
  /-- The name of an environment variable is not one. -/
  | badVariable
  /-- A text among the settings holds a reference that is not well formed. -/
  | malformedReference
  deriving DecidableEq, Repr

/-- The wording of a fault. -/
def Fault.message : Fault → String
  | scan fault => fault.message
  | unpaired ir => "LL file " ++ ir.text ++ " does not exist."
  | transform fault => fault.message
  | workspace fault => fault.message
  | phase fault => fault.message
  | toolchain fault => fault.message
  | tool failure => failure.message
  | disk error => error.message
  | messages (.numeral fault) => fault.message
  | messages .tooDeep => Json.Fault.message .tooDeep
  | messages .badProfile => "profile is not a record"
  | emptyMarker => Marker.emptyMessage
  | noSamples => "merge_profiles requires at least one input file"
  | unnamed path => Disk.pathValue path ++ " has an empty name"
  | noCommand => "list index out of range"
  | badVariable => "illegal environment variable name"
  | malformedReference => "a reference is not well formed"

/-- Does the fault concern only the item that is worked on?  Then it is recorded with the item and
the batch goes on. -/
def Fault.isItemFault : Fault → Bool
  | transform _ | tool _ => true
  | disk error => error.isRefusal
  | _ => false

end WasmCoverage
