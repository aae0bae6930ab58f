import WasmCoverage.Tool.Command
import WasmCoverage.World

/-!
# Calling the LLVM tools

Each of the three tools is called with a command line of its own, after the directory that its
output goes to was made.
-/

namespace WasmCoverage.Tool

/-- Compile IR to an object. -/
def compile (tools : Toolbox) (compiler : String) (ir object : Path) (triple : String) :
    Run Path := do
  onDisk (Disk.makeDirectories object.parent)
  let _ ← listen tools (compileCommand compiler ir object triple) none
  return object

/-- Merge raw samples into one profile.  There must be some. -/
def mergeProfiles (tools : Toolbox) (tool : String) (samples : List Path) (profile : Path)
    (extra : List String) : Run Path := do
  if samples = [] then throw .noSamples
  onDisk (Disk.makeDirectories profile.parent)
  let _ ← listen tools (mergeCommand tool samples profile extra) none
  return profile

/-- Render a merged profile as HTML. -/
def renderReport (tools : Toolbox) (tool : String) (profile object output : Path)
    (extra : List String) : Run Path := do
  let _ ← listen tools (showCommand tool profile object output extra) none
  return output

end WasmCoverage.Tool
