import Std.Data.HashMap
import WasmCoverage.Clock
import WasmCoverage.CommandLine.Program
import WasmCoverage.Program.Basic

/-!
# The program

The tree below the current directory is read, the request is carried out on it, and what changed
is written back.  Scripts on the tree are run as the tools that they stand for.
-/

namespace WasmCoverage.CommandLine

open WasmCoverage.Text

/-! ## What is read -/

/-- Does a file say which program interprets it?  Such a file may be run. -/
def isScript : Octets → Bool
  | 35 :: 33 :: _ => true
  | _ => false

/-- Everything below a directory that stands at a location. -/
partial def readBelow (location : Location) (directory : IO.FS.DirEntry) :
    IO (List (Location × Node)) := do
  let entries ← directory.path.readDir
  let found ← entries.toList.mapM fun entry => do
    let place := entry.fileName :: location
    match (← entry.path.symlinkMetadata).type with
    | .dir => return (place, Node.directory) :: (← readBelow place entry)
    | .file =>
      let data := (← IO.FS.readBinFile entry.path).toList
      return [(place, Node.file data (isScript data))]
    | .symlink =>
      try
        let target ← IO.FS.realPath entry.path
        return [(place, Node.link (.ofText target.toString))]
      catch _ => return []
    | .other => return []
  return found.flatten

/-- The directories that a location lies in, and its own. -/
def directoriesTo : Location → List (Location × Node)
  | [] => []
  | name :: outer => directoriesTo outer ++ [(name :: outer, .directory)]

/-- The disk with the tree below the current directory. -/
def readDisk : IO Disk := do
  let current ← IO.currentDir
  let here := (Path.ofText current.toString).names.reverse
  return { entries := directoriesTo here ++ (← readBelow here ⟨current, "."⟩), here }

/-- The time by the clock of the file system. -/
def readClock : IO Moment := do
  let (_, file) ← IO.FS.createTempFile
  let time := (← file.metadata).modified
  IO.FS.removeFile file
  return Moment.ofSeconds time.sec.toNat (time.nsec.toNat / 1000)

/-- A number from which on nobody took any. -/
def readFirstNumber : IO Nat := do
  let octets ← IO.getRandomBytes 15
  return octets.toList.foldl (fun n octet => n * 256 + octet.toNat) 0

/-- The runs of characters that names of variables consist of. -/
def namesIn (text : String) : List String :=
  words (text.toList.map fun c => if c.isAlphanum || c = '_' then c else ' ') |>.map String.ofList

/-- The variables that tools and settings ask for, as far as they are set. -/
def readVariables (arguments : List String) : IO Cargo.Environment := do
  let usual := [SearchPath.variableName, "HOME", Cargo.workspaceVariable]
  let names := (usual ++ arguments.flatMap namesIn).eraseDups
  names.filterMapM fun name => do
    let value ← IO.getEnv name
    return value.map fun text => (name, text)

/-! ## What is written -/

/-- The text of a location. -/
def locationText (location : Location) : String :=
  "/" ++ joinText "/" location.reverse

/-- Are two nodes of one kind? -/
def isSameKind : Node → Node → Bool
  | .directory, .directory => true
  | .file _ _, .file _ _ => true
  | .link _, .link _ => true
  | _, _ => false

/-- Remove what is not there any more, the innermost first. -/
def removeGone (before after : Disk) : IO Unit := do
  let left := Std.HashMap.ofList after.entries
  for (location, node) in before.entries.reverse do
    unless (left.get? location).any (isSameKind node) do
      if node = .directory then IO.FS.removeDir (locationText location)
      else IO.FS.removeFile (locationText location)

/-- Everybody may read; the owner may write. -/
def rightsOf (executable : Bool) : IO.FileRight :=
  ⟨⟨true, true, executable⟩, ⟨true, false, executable⟩, ⟨true, false, executable⟩⟩

/-- Write what is new or different. -/
def writeChanged (before after : Disk) : IO Unit := do
  let known := Std.HashMap.ofList before.entries
  for (location, node) in after.entries do
    unless known.get? location = some node do
      let path := locationText location
      match node with
      | .directory => IO.FS.createDirAll path
      | .file data executable =>
        IO.FS.writeBinFile path ⟨data.toArray⟩
        if executable then IO.setAccessRights path (rightsOf true)
      | .link _ => pure ()

/-! ## The run -/

/-- How the program is called. -/
def usage : String :=
  let shown := commonOptions.map fun option =>
    " [" ++ option.shown ++ (if option.takesValue then " VALUE]" else "]")
  "usage: " ++ programName ++ String.join shown ++
    " \x7b" ++ joinText "," (Verb.all.map Verb.name) ++ "\x7d ..."

/-- How much there is on the stack for messages of the build tool, and for values of settings. -/
def stackDepth : Nat := 1000

/-- Carry out a request on the current directory; the status of the program. -/
def carryOut (arguments : List String) (request : Request) : IO Nat := do
  let disk ← readDisk
  let vars ← readVariables arguments
  let searchPath := SearchPath.directories ((Table.get? SearchPath.variableName vars).getD "")
  let world : World :=
    { disk, clock := ← readClock, searchPath, issued := ← readFirstNumber }
  let (report, after) :=
    (execute stackDepth stackDepth Moment.journalStamp (Program.tools vars) vars request).run world
  removeGone disk after.disk
  writeChanged disk after.disk
  (← IO.getStdout).write ⟨after.terminal.out.toArray⟩
  (← IO.getStderr).write ⟨after.terminal.err.toArray⟩
  IO.print report.out
  IO.eprint report.err
  return report.status

end WasmCoverage.CommandLine

open WasmCoverage.CommandLine in
/-- Run the program with its arguments. -/
def main (arguments : List String) : IO UInt32 := do
  match readRequest arguments with
  | .ok request => return (← carryOut arguments request).toUInt32
  | .error ended =>
    if ended = .help then IO.println usage
    else
      IO.eprintln usage
      IO.eprintln ended.complaint
    return ended.status.toUInt32
