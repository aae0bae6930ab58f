import WasmCoverage.World

/-!
# Neutralizing IR files

The IR is read from one file and written, neutralized, to another, octet for octet outside the
function bodies.  Nothing is written unless the IR could be read and cut.
-/

namespace WasmCoverage.Ir

open WasmCoverage.Text

/-- Put data into a file, making the directories it lies in. -/
def writeWithDirectories (target : Path) (data : Octets) : Disk.Action Unit := do
  Disk.makeDirectories target.parent
  Disk.write target data

/-- Neutralize the IR of one file into another; the number of functions that were neutralized. -/
def neutralizeFile (source target : Path) : Run Nat := do
  let octets ← onDiskOr (fun error => .transform (.unreadable source error)) (Disk.read source)
  match neutralizeOctets octets with
  | .error fault => throw (.transform (.malformed source fault))
  | .ok (neutralized, count) =>
    onDiskOr (fun error => .transform (.unwritable target error))
      (writeWithDirectories target neutralized)
    return count

end WasmCoverage.Ir
