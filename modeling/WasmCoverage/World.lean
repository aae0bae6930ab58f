import WasmCoverage.Cargo.Command
import WasmCoverage.Disk.Operations
import WasmCoverage.Fault
import WasmCoverage.Moment

/-!
# The world that a run acts on

A run changes a disk, takes numbers that nobody took before, reads the clock, writes to a journal
and calls external tools.  All of that is one value, `World`; a run is a function on it that
answers or fails, and what was done before a failure stays done.

Tools are not part of the library: a `Toolbox` says what a call does, given the calls before it
and the disk it finds.  Every call is recorded in the world, so that the order of calls can be
spoken about.
-/

namespace WasmCoverage

open WasmCoverage.Text

/-! ## The journal -/

/-- How important a message of the journal is. -/
inductive LogLevel where
  | debug
  | info
  | warning
  | error
  | critical
  deriving DecidableEq, Repr

namespace LogLevel

/-- The levels in order. -/
def all : List LogLevel := [debug, info, warning, error, critical]

/-- The rank of a level. -/
def rank : LogLevel → Nat
  | debug => 10
  | info => 20
  | warning => 30
  | error => 40
  | critical => 50

/-- The name of a level. -/
def name : LogLevel → String
  | debug => "DEBUG"
  | info => "INFO"
  | warning => "WARNING"
  | error => "ERROR"
  | critical => "CRITICAL"

/-- The level with a name. -/
def ofName? (text : String) : Option LogLevel :=
  all.find? fun level => level.name = text

/-- **A level is found by its name.** -/
theorem ofName?_name (level : LogLevel) : ofName? level.name = some level := by
  cases level <;> decide

end LogLevel

/-- Who writes to the journal. -/
inductive Author where
  | pipeline
  | build
  | discovery
  | process
  | program
  deriving DecidableEq, Repr

/-- The name that an author signs with. -/
def Author.name : Author → String
  | pipeline => "wasmcov.runners.pipeline"
  | build => "wasmcov.runners.instrumented_build"
  | discovery => "wasmcov.coverage.discovery"
  | process => "wasmcov.coverage.vendor.process"
  | program => "wasmcov"

/-- A message of the journal. -/
structure LogEntry where
  level : LogLevel
  author : Author
  message : String
  deriving DecidableEq, Repr

/-! ## Tools -/

/-- A call of an external tool. -/
structure Call where
  /-- Does the tool write to the terminal, instead of being listened to? -/
  streamed : Bool
  argv : List String
  /-- The variables that are set for it, on top of those of the program. -/
  environment : Option Cargo.Environment
  deriving DecidableEq, Repr

/-- What was written to the terminal. -/
structure Terminal where
  out : Octets := []
  err : Octets := []
  deriving DecidableEq, Repr

/-- The terminal after more was written. -/
def Terminal.append (before after : Terminal) : Terminal :=
  ⟨before.out ++ after.out, before.err ++ after.err⟩

instance : Append Terminal := ⟨Terminal.append⟩

/-- What a call led to: what the tool said or why it failed, the disk as it left it, what it wrote
to the terminal and what is to be said in the journal. -/
structure Response where
  outcome : Except Fault String
  disk : Disk
  printed : Terminal := {}
  log : List LogEntry := []

/-- The external tools: what a call does after some other calls, on a disk. -/
abbrev Toolbox := List Call → Call → Disk → Response

/-! ## Runs -/

/-- The world that a run acts on. -/
structure World where
  disk : Disk
  clock : Moment
  /-- The directories that programs are looked for in. -/
  searchPath : List String := []
  /-- How many unique numbers were given out. -/
  issued : Nat := 0
  calls : List Call := []
  journal : List LogEntry := []
  terminal : Terminal := {}

/-- Something done to the world. -/
abbrev Run := ExceptT Fault (StateM World)

/-- A fault of the disk passed on as it is. -/
def onDisk {α : Type} (action : Disk.Action α) : Run α := do
  let world ← get
  let (result, disk) := action.run.run world.disk
  set { world with disk }
  match result with
  | .ok value => return value
  | .error error => throw (.disk error)

/-- A refusal of the disk passed on in other words.  Errors that are no refusals stay as they
are. -/
def onDiskOr {α : Type} (reword : Disk.Error → Fault) (action : Disk.Action α) : Run α := do
  let world ← get
  let (result, disk) := action.run.run world.disk
  set { world with disk }
  match result with
  | .ok value => return value
  | .error error => throw (if error.isRefusal then reword error else .disk error)

/-- Write to the journal. -/
def journal (author : Author) (level : LogLevel) (message : String) : Run Unit :=
  modify fun world => { world with journal := world.journal ++ [⟨level, author, message⟩] }

/-- A number that nobody took before. -/
def freshNumber : Run Nat := do
  let world ← get
  set { world with issued := world.issued + 1 }
  return world.issued + 1

/-- Call a tool. -/
def call (tools : Toolbox) (request : Call) : Run String := do
  let world ← get
  let response := tools world.calls request world.disk
  set { world with
    disk := response.disk
    calls := world.calls ++ [request]
    journal := world.journal ++ response.log
    terminal := world.terminal ++ response.printed }
  match response.outcome with
  | .ok output => return output
  | .error fault => throw fault

/-- Call a tool and listen to it. -/
def listen (tools : Toolbox) (argv : List String)
    (environment : Option Cargo.Environment := none) : Run String :=
  call tools ⟨false, argv, environment⟩

/-- Call a tool that writes to the terminal. -/
def stream (tools : Toolbox) (argv : List String)
    (environment : Option Cargo.Environment := none) : Run Unit := do
  let _ ← call tools ⟨true, argv, environment⟩

end WasmCoverage
