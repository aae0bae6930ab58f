import WasmCoverage.Path.Basic
import WasmCoverage.Text.Quoted

/-!
# Errors of the disk

What the operating system refuses is told by a number, the system's words for it and the path it
is about.  Two more refusals come before the system is asked: a path with a NUL in it, and
symbolic links that lead in a circle.
-/

namespace WasmCoverage.Disk

open WasmCoverage.Text

/-- Why the system refuses an operation on a path. -/
inductive Cause where
  | missing
  | badFormat
  | denied
  | busy
  | present
  | notDirectory
  | isDirectory
  | nameTooLong
  | tooManyLinks
  deriving DecidableEq, Repr

/-- The system's number for a cause. -/
def Cause.code : Cause → Int
  | missing => 2
  | badFormat => 8
  | denied => 13
  | busy => 16
  | present => 17
  | notDirectory => 20
  | isDirectory => 21
  | nameTooLong => 36
  | tooManyLinks => 40

/-- The system's words for a cause. -/
def Cause.text : Cause → String
  | missing => "No such file or directory"
  | badFormat => "Exec format error"
  | denied => "Permission denied"
  | busy => "Device or resource busy"
  | present => "File exists"
  | notDirectory => "Not a directory"
  | isDirectory => "Is a directory"
  | nameTooLong => "File name too long"
  | tooManyLinks => "Too many levels of symbolic links"

/-- Different causes have different numbers. -/
theorem Cause.code_injective {a b : Cause} (h : a.code = b.code) : a = b := by
  cases a <;> cases b <;> first | rfl | (revert h; decide)

/-- A refusal of the system: its number, its words, and what it is about as messages show it. -/
structure SystemError where
  code : Int
  text : String
  subject : Option String
  deriving DecidableEq, Repr

/-- The wording of a refusal. -/
def SystemError.message (error : SystemError) : String :=
  "[Errno " ++ toString error.code ++ "] " ++ error.text ++
    (match error.subject with
      | none => ""
      | some subject => ": " ++ subject)

/-- A path as a value in messages. -/
def pathValue (path : Path) : String :=
  "PosixPath(" ++ quote path.text ++ ")"

/-- The refusal for a cause, about a path. -/
def Cause.about (cause : Cause) (path : Path) : SystemError :=
  ⟨cause.code, cause.text, some (quote path.text)⟩

/-- What can go wrong with the disk. -/
inductive Error where
  /-- The system refuses. -/
  | system (error : SystemError)
  /-- A link stands where a directory tree should be removed. -/
  | linkedTree
  /-- A file should be copied onto itself. -/
  | sameFile (source target : String)
  /-- A path has a NUL in it. -/
  | nullByte
  /-- Links lead in a circle. -/
  | linkLoop
  deriving DecidableEq, Repr

/-- The wording of an error. -/
def Error.message : Error → String
  | system error => error.message
  | linkedTree => "Cannot call rmtree on a symbolic link"
  | sameFile source target => source ++ " and " ++ target ++ " are the same file"
  | nullByte => "embedded null byte"
  | linkLoop => "Symlink loop"

/-- Is the error one that the work on a single artifact may end with?  A NUL and a circle of links
are not; they end the whole run. -/
def Error.isRefusal : Error → Bool
  | system _ | linkedTree | sameFile _ _ => true
  | nullByte | linkLoop => false

end WasmCoverage.Disk
