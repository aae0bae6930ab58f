import WasmCoverage.Disk.Operations
import WasmCoverage.Shell.Format

/-!
# Programs of the system

The few programs beside the shell that scripts call: they show files and make directories.  Each is
a function of its arguments, its input and the disk, and complains under the name by which it was
called.
-/

namespace WasmCoverage.Program

open WasmCoverage.Text

/-- What a program came to. -/
structure Result where
  status : Nat := 0
  out : Octets := []
  err : Octets := []
  disk : Disk

/-- The words for what went wrong, as programs of the system have them. -/
def reason : Disk.Error → String
  | .system error => error.text
  | error => error.message

/-- An action for every operand in turn; a complaint does not keep the others from being done. -/
def forEach (complaint : String → Disk.Error → String) (action : String → Disk.Action Octets) :
    List String → Disk → Result
  | [], disk => { disk }
  | operand :: rest, disk =>
    let (result, disk) := (action operand).run.run disk
    let later := forEach complaint action rest disk
    match result with
    | .ok octets => { later with out := octets ++ later.out }
    | .error error =>
      { later with status := 1, err := octetsOf (complaint operand error ++ "\n") ++ later.err }

/-- Show files; without operands, what there is to read. -/
def show_ (name : String) (operands : List String) (input : Octets) (disk : Disk) : Result :=
  let complaint (operand : String) (error : Disk.Error) : String :=
    name ++ ": " ++ operand ++ ": " ++ reason error
  if operands.isEmpty then { out := input, disk }
  else forEach complaint (fun operand => Disk.read (.ofText operand)) operands disk

/-- Make directories, and those that they are in if that is asked for. -/
def makeDirectories (name : String) (words : List String) (disk : Disk) : Result :=
  let complaint (operand : String) (error : Disk.Error) : String :=
    name ++ ": cannot create directory '" ++ operand ++ "': " ++ reason error
  let make (operand : String) : Disk.Action Octets := do
    if words.contains "-p" then Disk.makeDirectories (.ofText operand)
    else Disk.makeDirectory (.ofText operand)
    return []
  forEach complaint make (words.filter (· ≠ "-p")) disk

/-- A program of the system other than the shell, called with the name it was found by, words and
something to read. -/
def utility (program name : String) (words : List String) (input : Octets) (disk : Disk) :
    Result :=
  match program with
  | "true" => { disk }
  | "false" => { status := 1, disk }
  | "echo" => { out := octetsOf (String.intercalate " " words ++ "\n"), disk }
  | "printf" => { out := (Shell.printFormat (words.headD "") (words.drop 1)).octets, disk }
  | "cat" => show_ name words input disk
  | _ => makeDirectories name words disk

end WasmCoverage.Program
