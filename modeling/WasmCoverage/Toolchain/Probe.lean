import WasmCoverage.Path.Search
import WasmCoverage.Settings.Basic
import WasmCoverage.Text.Blank
import WasmCoverage.World

/-!
# Finding out the toolchain

The tools that the settings name are taken as they are.  The others are looked for under the names
that carry the LLVM version, which is the one in the settings or the one the active compiler was
built with.  The compiler is only asked if its version is needed or the target has to be checked.
-/

namespace WasmCoverage

open WasmCoverage.Text

/-- The tools of a run. -/
structure Toolchain where
  llvmVersion : String
  nightly : Bool := true
  clang : String
  llvmProfdata : String
  llvmCov : String
  deriving DecidableEq, Repr

namespace Toolchain

/-! ## Programs on the disk -/

/-- Does the path lead to a file that can be run? -/
def isProgram (disk : Disk) (path : Path) : Bool :=
  match disk.look path true with
  | .ok (.file _ executable) => executable
  | _ => false

/-- A program by its name: a name with a slash is a path, any other is looked for in the
directories of the search path. -/
def which? (disk : Disk) (searchPath : List String) (name : String) : Option String :=
  if name = "" || name.toList.contains '\x00' || name.toList.getLast? = some '/' then none
  else (SearchPath.places searchPath name).find? fun place => isProgram disk (.ofText place)

/-- The place of a tool that must be there. -/
def ensureTool (name : String) : Run String := do
  let world ← get
  match which? world.disk world.searchPath name with
  | some place => return place
  | none => throw (.toolchain (.noTool name))

/-! ## Questions to the toolchain manager -/

/-- A tool's failure in other words; every other fault stays as it is. -/
def rewordFailure (reword : Tool.Failure → ToolchainFault) (run : Run String) : Run String := do
  try run
  catch fault =>
    match fault with
    | .tool failure => throw (.toolchain (reword failure))
    | _ => throw fault

/-- What the active compiler says about itself. -/
def checkCompiler (tools : Toolbox) : Run Report := do
  let output ← rewordFailure .noCompiler (listen tools ["rustc", "--version", "--verbose"])
  match Report.read? output with
  | some report => return report
  | none => throw (.toolchain (.unreadableReport output))

/-- Make sure that a target is installed. -/
def checkTarget (tools : Toolbox) (nightly : Bool) (target : String) : Run Unit := do
  let output ← rewordFailure .noManager
    (listen tools ["rustup", "target", "list", "--installed"])
  unless (words output.toList).contains target.toList do
    throw (.toolchain (.noTarget nightly target))

/-! ## The probe -/

/-- The first text, unless there is none or it is empty. -/
def orElse (first : Option String) (second : String) : String :=
  match first with
  | some s => if s = "" then second else s
  | none => second

/-- The version to use and whether the compiler is a nightly one.  If nobody asks the compiler, it
is taken for one. -/
def probeCompiler (tools : Toolbox) (settings : ToolchainSettings) : Run (String × Bool) := do
  if settings.llvmVersion.isNone || settings.checkWasmTarget then
    let report ← checkCompiler tools
    return (orElse settings.llvmVersion report.version, report.nightly)
  else return (settings.llvmVersion.getD "", true)

/-- The tool that the settings name, or the one with the version in its name. -/
def resolveTool (explicit : Option String) (base version : String) : Run String :=
  match explicit with
  | some tool => if tool = "" then ensureTool (base ++ "-" ++ version) else return tool
  | none => ensureTool (base ++ "-" ++ version)

/-- The toolchain that the settings describe. -/
def probe (tools : Toolbox) (settings : ToolchainSettings) : Run Toolchain := do
  let (version, nightly) ← probeCompiler tools settings
  if settings.checkWasmTarget then checkTarget tools nightly settings.wasmTarget
  let clang ← resolveTool settings.clang "clang" version
  let llvmProfdata ← resolveTool settings.llvmProfdata "llvm-profdata" version
  let llvmCov ← resolveTool settings.llvmCov "llvm-cov" version
  return ⟨version, nightly, clang, llvmProfdata, llvmCov⟩

end Toolchain

end WasmCoverage
