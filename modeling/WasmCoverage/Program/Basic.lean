import WasmCoverage.Path.Search
import WasmCoverage.Shell.Evaluation
import WasmCoverage.World

/-!
# External tools as processes

A tool is looked for in the search path of its environment and executed with no input.  What it
writes is kept apart from what the run itself prints.  A tool that cannot be started fails with
the status -1 and the system's words; one that a signal ends fails with the signal's number,
negated; every other status but zero is a failure as it is.

Main statement: `explains_of_respond`, what the fault of a call says about the call.
-/

namespace WasmCoverage.Program

open WasmCoverage.Text

/-- What a process came to. -/
structure Outcome where
  ending : Shell.Ending
  printed : Terminal
  disk : Disk

/-- Why a process was not started. -/
inductive StartFault where
  /-- The command has no words. -/
  | noCommand
  /-- There is a NUL in a word, in the environment or in the directory. -/
  | nul
  /-- The name of a variable has an equals sign in it. -/
  | badVariable
  | refused (error : Disk.SystemError)

/-- Does a text hold a NUL? -/
def hasNul (text : String) : Bool :=
  text.toList.contains '\x00'

/-- Is there a NUL in a word, in the path of a directory or in a variable? -/
def anyNul (vars : Cargo.Environment) (directory : Option Path) (argv : List String) : Bool :=
  argv.any hasNul || (directory.any fun path => hasNul path.text) ||
    vars.any fun entry => hasNul entry.1 || hasNul entry.2

/-- Does the name of a variable have an equals sign in it? -/
def anyEquals (vars : Cargo.Environment) : Bool :=
  vars.any fun entry => entry.1.toList.contains '='

/-- The directories that are searched if the environment names none. -/
def defaultSearchPath : String := "/bin:/usr/bin"

/-- The first of some causes that says more than that there is nothing; otherwise the last. -/
def causeAmong : List Disk.Cause → Disk.Cause
  | [] => .missing
  | [cause] => cause
  | cause :: rest =>
    if cause = .missing ∨ cause = .notDirectory then causeAmong rest else cause

/-- The program of the system that the first executable path comes down to. -/
def firstInterpreted (disk : Disk) (argv : List String) (failed : List Disk.Cause) :
    List String → Except Disk.Cause (String × List String)
  | [] => .error (causeAmong failed)
  | path :: rest =>
    match interpreted disk interpreterLimit path argv with
    | .ok found => .ok found
    | .error cause => firstInterpreted disk argv (failed ++ [cause]) rest

/-- How deep the recursion of a process may go. -/
def fuel : Nat := 20000

/-- The number of the first process. -/
def firstProcess : Nat := 4096

/-- A system program run with an environment. -/
def runWith (disk : Disk) (vars : Cargo.Environment) (name : String)
    (argv : List String) : Outcome :=
  let state : Shell.State :=
    { disk
      pipes := [[], []]
      channels := [(0, .nowhere), (1, .pipe 0), (2, .pipe 1)]
      vars := vars.map fun (name, value) => (name, { value, exported := true })
      name := argv.headD ""
      arguments := []
      process := firstProcess }
  let (result, after) := (Shell.program fuel name argv).run.run state
  let ending := match result with
    | .ok ending => ending
    | .error _ => .exited 1
  { ending
    printed := ⟨after.pipes[0]?.getD [], after.pipes[1]?.getD []⟩
    disk := after.disk }

/-- The disk as a process in a directory sees it. -/
def inDirectory (disk : Disk) (directory : Option Path) : Except StartFault Disk :=
  match directory with
  | none => .ok disk
  | some path =>
    match disk.find path true with
    | .error cause => .error (.refused (cause.about path))
    | .ok location =>
      match disk.node? location with
      | some .directory => .ok { disk with here := location }
      | some _ => .error (.refused (Disk.Cause.notDirectory.about path))
      | none => .error (.refused (Disk.Cause.missing.about path))

/-- Start a process and wait for its end. -/
def start (disk : Disk) (vars : Cargo.Environment) (directory : Option Path)
    (argv : List String) : Except StartFault Outcome :=
  match argv with
  | [] => .error .noCommand
  | name :: _ =>
    if anyNul vars directory argv then .error .nul
    else if anyEquals vars then .error .badVariable
    else do
      let inside ← inDirectory disk directory
      let searchPath := (Table.get? SearchPath.variableName vars).getD defaultSearchPath
      let places := SearchPath.places (SearchPath.directories searchPath) name
      match firstInterpreted inside argv [] places with
      | .error cause => throw (.refused ⟨cause.code, cause.text, some (quote name)⟩)
      | .ok (program, argv) =>
        let outcome := runWith inside vars program argv
        return { outcome with disk := { outcome.disk with here := disk.here } }

/-! ## Tools -/

/-- The status that an ending is told by. -/
def statusOf : Shell.Ending → Int
  | .exited status => status
  | .killed signal => -signal

/-- The fault that a process is that was not started. -/
def StartFault.toFault (argv : List String) : StartFault → Fault
  | noCommand => .noCommand
  | nul => .disk .nullByte
  | badVariable => .badVariable
  | refused error => .tool ⟨argv, -1, error.message⟩

/-- The variables that a call is made with. -/
def variablesFor (own : Cargo.Environment) (request : Call) : Cargo.Environment :=
  (request.environment.getD []).foldl
    (fun vars entry => Table.insert entry.1 entry.2 vars) own

/-- The message about a call that is made. -/
def runningMessage (argv : List String) : String :=
  "Running: " ++ Tool.quoteWords argv

/-- What is said in the journal about a tool that succeeded but complained. -/
def remarks (argv : List String) (stderr : String) : List LogEntry :=
  let text := trim stderr
  if text = "" then []
  else [⟨.debug, .process, argv.headD "" ++ " stderr: " ++ text⟩]

/-- What a call is answered with whose process has ended. -/
def answerOf (request : Call) (outcome : Outcome) : Except Fault String :=
  let heard (octets : Octets) : String := if request.streamed then "" else decodeLossy octets
  let status := statusOf outcome.ending
  if status = 0 then .ok (heard outcome.printed.out)
  else .error (.tool ⟨request.argv, status, heard outcome.printed.err⟩)

/-- The response to a call of a tool that is run in a directory. -/
def respond (own : Cargo.Environment) (directory : Option Path) (request : Call) (disk : Disk) :
    Response :=
  let level : LogLevel := if request.streamed then .info else .debug
  let announced : LogEntry := ⟨level, .process, runningMessage request.argv⟩
  match start disk (variablesFor own request) directory request.argv with
  | .error fault =>
    { outcome := .error (fault.toFault request.argv), disk, log := [announced] }
  | .ok outcome =>
    let isRemarkable := !request.streamed && statusOf outcome.ending = 0
    { outcome := answerOf request outcome
      disk := outcome.disk
      printed := if request.streamed then outcome.printed else {}
      log := announced ::
        if isRemarkable then remarks request.argv (decodeLossy outcome.printed.err) else [] }

/-! ## Faults of calls -/

/-- What a fault says about the call that it is the fault of. -/
def Explains (own : Cargo.Environment) (directory : Option Path) (request : Call) : Fault → Prop
  | .tool failure => failure.argv = request.argv ∧ failure.status ≠ 0
  | .noCommand => request.argv = []
  | .disk .nullByte => anyNul (variablesFor own request) directory request.argv = true
  | .badVariable => anyEquals (variablesFor own request) = true
  | _ => False

variable {own : Cargo.Environment} {directory : Option Path} {request : Call} {disk : Disk}

theorem refused_of_inDirectory {fault : StartFault}
    (h : inDirectory disk directory = .error fault) : ∃ error, fault = .refused error := by
  unfold inDirectory at h
  repeat' split at h
  all_goals first
    | exact ⟨_, (Except.error.inj h).symm⟩
    | cases h

/-- A process that is refused is refused by the system, or its call cannot be made. -/
theorem explains_of_start {fault : StartFault}
    (h : start disk (variablesFor own request) directory request.argv = .error fault) :
    Explains own directory request (fault.toFault request.argv) := by
  have refused (error : Disk.SystemError) :
      Explains own directory request (StartFault.toFault request.argv (.refused error)) :=
    ⟨rfl, (by decide : (-1 : Int) ≠ 0)⟩
  unfold start at h
  split at h
  · next hargv => exact Except.error.inj h ▸ hargv
  · split at h
    · next hnul => exact Except.error.inj h ▸ hnul
    · split at h
      · next hequals => exact Except.error.inj h ▸ hequals
      · cases hinside : inDirectory disk directory with
        | error cause =>
          obtain ⟨error, rfl⟩ := refused_of_inDirectory hinside
          simp only [hinside, bind, Except.bind] at h
          exact Except.error.inj h ▸ refused error
        | ok inside =>
          simp only [hinside, bind, Except.bind] at h
          split at h
          · exact Except.error.inj h ▸ refused _
          · cases h

/-- **A call fails as a tool does**, with its own words and another status than zero, unless it is
no call that can be made: then the fault says why. -/
theorem explains_of_respond {fault : Fault}
    (h : (respond own directory request disk).outcome = .error fault) :
    Explains own directory request fault := by
  cases hstart : start disk (variablesFor own request) directory request.argv with
  | error refused =>
    simp only [respond, hstart] at h
    exact Except.error.inj h ▸ explains_of_start hstart
  | ok outcome =>
    simp only [respond, hstart, answerOf] at h
    split at h
    · cases h
    · next hstatus => exact Except.error.inj h ▸ ⟨rfl, hstatus⟩

/-- The tools on the disk, run with the variables of the program. -/
def tools (own : Cargo.Environment) : Toolbox := fun _ request disk =>
  respond own none request disk

end WasmCoverage.Program
