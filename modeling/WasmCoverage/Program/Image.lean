import WasmCoverage.Disk.Basic
import WasmCoverage.Text.Trim

/-!
# What can be executed

A path can be executed if it leads to a program of the system or to a file that may be run and
says in its first line, behind `#!`, which program interprets it.  The interpreter gets the path
as an argument, after the one argument that may stand in the first line.
-/

namespace WasmCoverage.Program

open WasmCoverage.Text

/-- The programs that the system has. -/
def systemPrograms : List String :=
  ["sh", "cat", "echo", "false", "mkdir", "printf", "true"]

/-- The directories with the programs of the system. -/
def systemDirectories : List String := ["/bin/", "/usr/bin/"]

/-- The name of the system's program that stands at a path. -/
def systemProgram? (path : String) : Option String :=
  systemPrograms.find? fun name => systemDirectories.any fun directory => path = directory ++ name

/-- What a path that is to be executed leads to. -/
inductive Image where
  | system (name : String)
  | file (data : Octets)

/-- The image at a path, or why it cannot be executed. -/
def image (disk : Disk) (path : String) : Except Disk.Cause Image :=
  if path = "" then .error .missing
  else
    match systemProgram? path with
    | some name => .ok (.system name)
    | none =>
      match disk.look (.ofText path) true with
      | .error cause => .error cause
      | .ok (.file data executable) =>
        if path.toList.getLast? = some '/' then .error .notDirectory
        else if executable then .ok (.file data)
        else .error .denied
      | .ok _ => .error .denied

/-- The number of octets of a file that are searched for an interpreter. -/
def headerLimit : Nat := 255

/-- Is the octet a blank? -/
def isSpaceOctet (octet : UInt8) : Bool :=
  octet = 32 || octet = 9

/-- The interpreter that the first line of a file names, and the argument for it. -/
def interpreter? (data : Octets) : Option (String × Option String) :=
  match data with
  | 35 :: 33 :: rest =>
    let line := ((rest.take headerLimit).takeWhile (· ≠ 10)).dropWhile isSpaceOctet
    let program := line.takeWhile fun octet => !isSpaceOctet octet
    let argument := trimWhile isSpaceOctet (line.drop program.length)
    if program.isEmpty then none
    else some (decodeLossy program, if argument.isEmpty then none else some (decodeLossy argument))
  | _ => none

/-- How many interpreters may be interpreted in turn. -/
def interpreterLimit : Nat := 5

/-- The program of the system that executing a path comes down to, with its arguments. -/
def interpreted (disk : Disk) : Nat → String → List String →
    Except Disk.Cause (String × List String)
  | 0, _, _ => .error .tooManyLinks
  | spare + 1, path, argv =>
    match image disk path with
    | .error cause => .error cause
    | .ok (.system name) => .ok (name, argv)
    | .ok (.file data) =>
      match interpreter? data with
      | none => .error .badFormat
      | some (program, argument) =>
        interpreted disk spare program (program :: argument.toList ++ path :: argv.drop 1)

end WasmCoverage.Program
