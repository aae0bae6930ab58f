import WasmCoverage.Cargo.Command
import WasmCoverage.CommandLine.Options

/-!
# Requests

A command line asks for one thing to be done.  Words before the first `--` are the program's own:
options, the command, and the options of the command.  Everything after it is passed on to the
tools untouched.  As a subcommand of the build tool the program is told its own name first.

Main statements: `passedOn_append`, the words after the first `--` are passed on as they are, and
`Verb.ofName?_name`, a command is found by its name.
-/

namespace WasmCoverage.CommandLine

open WasmCoverage.Text

/-- The name of the program. -/
def programName : String := "wasmcov"

/-- What can be asked for. -/
inductive Verb where
  | build
  | run
  | test
  | finalize
  | merge
  | report
  | clean
  | probe
  deriving DecidableEq, Repr

namespace Verb

/-- All commands in order. -/
def all : List Verb := [build, run, test, finalize, merge, report, clean, probe]

/-- The name of a command. -/
def name : Verb → String
  | build => "build"
  | run => "run"
  | test => "test"
  | finalize => "finalize"
  | merge => "merge"
  | report => "report"
  | clean => "clean"
  | probe => "probe"

/-- The command with a name. -/
def ofName? (text : String) : Option Verb :=
  all.find? fun verb => verb.name = text

/-- **A command is found by its name.** -/
theorem ofName?_name (verb : Verb) : ofName? verb.name = some verb := by
  cases verb <;> decide

end Verb

/-- What an option is about. -/
inductive Subject where
  | help
  | workspace
  | override
  | verbose
  | buildRoot
  | everything
  deriving DecidableEq, Repr

/-- The option that asks for help. -/
def helpOption : Option_ Subject :=
  { key := .help, spellings := ["-h", "--help"], isHelp := true }

/-- The options before the command. -/
def commonOptions : List (Option_ Subject) :=
  [helpOption,
   { key := .workspace, spellings := ["--wasmcov-dir"], takesValue := true },
   { key := .override, spellings := ["--override"], takesValue := true },
   { key := .verbose, spellings := ["-v", "--verbose"] }]

/-- The options of a command. -/
def Verb.options : Verb → List (Option_ Subject)
  | finalize =>
    [helpOption, { key := .buildRoot, spellings := ["--build-root"], takesValue := true }]
  | clean => [helpOption, { key := .everything, spellings := ["--all"] }]
  | _ => [helpOption]

/-- What is asked for. -/
structure Request where
  verb : Verb
  workspace : Option String := none
  overrides : List String := []
  verbose : Bool := false
  buildRoot : Option String := none
  everything : Bool := false
  /-- What is passed on to the tools. -/
  passedOn : List String := []
  deriving DecidableEq, Repr

/-- The request with an option that was given. -/
def Request.with (request : Request) (given : Subject × Option String) : Request :=
  match given with
  | (.workspace, value) => { request with workspace := value }
  | (.override, value) => { request with overrides := request.overrides ++ value.toList }
  | (.verbose, _) => { request with verbose := true }
  | (.buildRoot, value) => { request with buildRoot := value }
  | (.everything, _) => { request with everything := true }
  | (.help, _) => request

/-- The message about a command that there is not. -/
def badChoiceMessage (word : String) : String :=
  "argument command: invalid choice: " ++ quote word ++ " (choose from " ++
    joinText ", " (Verb.all.map fun verb => quote verb.name) ++ ")"

/-- The message about words that nobody asks for. -/
def leftOverMessage (words : List String) : String :=
  "unrecognized arguments: " ++ joinText " " words

/-- The words without the program's name at the start. -/
def withoutOwnName : List String → List String
  | first :: rest => if first = programName then rest else first :: rest
  | [] => []

/-- What the program's own words ask for. -/
def readOwn (words : List String) : Except End Request := do
  let common ← readWords programName commonOptions true words
  match common.operands with
  | [] => throw (.misuse programName "the following arguments are required: command")
  | word :: rest =>
    match Verb.ofName? word with
    | none => throw (.misuse programName (badChoiceMessage word))
    | some verb =>
      let own ← readWords (programName ++ " " ++ verb.name) verb.options false rest
      let left := common.left ++ own.left
      unless left.isEmpty do throw (.misuse programName (leftOverMessage left))
      return (common.given ++ own.given).foldl Request.with { verb }

/-- What a command line asks for. -/
def readRequest (words : List String) : Except End Request := do
  let (own, passedOn) := Cargo.splitArguments (withoutOwnName words)
  let request ← readOwn own
  return { request with passedOn }

/-- The program's name is before the first separator. -/
theorem withoutOwnName_append (own after : List String) :
    withoutOwnName (own ++ Cargo.separator :: after) =
      withoutOwnName own ++ Cargo.separator :: after := by
  cases own with
  | nil => rfl
  | cons first rest =>
    simp only [List.cons_append, withoutOwnName]
    split <;> rfl

theorem withoutOwnName_subset (words : List String) : withoutOwnName words ⊆ words := by
  cases words with
  | nil => exact List.Subset.refl _
  | cons first rest =>
    simp only [withoutOwnName]
    split
    · exact List.subset_cons_self first rest
    · exact List.Subset.refl _

/-- **The words after the first separator are passed on as they are**, whether or not the program is
told its own name first. -/
theorem passedOn_append {own : List String} (after : List String) {request : Request}
    (h : Cargo.separator ∉ own)
    (read : readRequest (own ++ Cargo.separator :: after) = .ok request) :
    request.passedOn = after := by
  have hown : Cargo.separator ∉ withoutOwnName own := fun hm => h (withoutOwnName_subset own hm)
  simp only [readRequest, withoutOwnName_append, Cargo.splitArguments_append after hown] at read
  cases hr : readOwn (withoutOwnName own) with
  | error e =>
    rw [hr] at read
    cases read
  | ok found =>
    rw [hr] at read
    cases read
    rfl

end WasmCoverage.CommandLine
