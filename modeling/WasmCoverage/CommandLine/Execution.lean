import WasmCoverage.CommandLine.Request
import WasmCoverage.InstrumentedBuild

/-!
# Requests carried out

A request is carried out in a workspace: its root is the one on the command line, else the one in
the settings, else the one that the environment names, else the default one.  The journal goes to
the console and, unless the settings forbid it, into a file of the workspace; cleaning leaves no
such file.  The effective settings are written into the workspace before anything is built,
merged or reported.

Faults of the library are told as they are.  Everything else that goes wrong is told with the
command that failed.

Neither how settings are composed nor how they are written down matters here: what was composed and
a `SettingsWriter` are arguments, as the tools are.

Main statement: `rootText?_flag`, the command line decides about the root.
-/

namespace WasmCoverage.CommandLine

open WasmCoverage.Text

/-! ## Reports -/

/-- What a request came to: the status of the program and what it printed. -/
structure Report where
  status : Nat := 0
  out : String := ""
  err : String := ""
  deriving DecidableEq, Repr

/-- Is a fault one of the library, and not one of the system or of the input? -/
def isOwnFault : Fault → Bool
  | .scan _ | .unpaired _ | .transform _ | .workspace _ | .phase _ | .toolchain _ | .tool _ => true
  | _ => false

/-- The line about something that went wrong. -/
def failedLine (verb : Verb) (message : String) : String :=
  "ERROR: " ++ programName ++ " " ++ verb.name ++ " failed: " ++ message ++ "\n"

/-- The line about a fault. -/
def faultLine (verb : Verb) (fault : Fault) : String :=
  if isOwnFault fault then "ERROR: " ++ fault.message ++ "\n" else failedLine verb fault.message

/-! ## The journal -/

/-- The line of a message on the console. -/
def consoleLine (entry : LogEntry) : String :=
  entry.level.name ++ ": " ++ entry.message ++ "\n"

/-- The line of a message in the file; `time` is the time it was written. -/
def fileLine (time : String) (entry : LogEntry) : String :=
  time ++ " " ++ entry.level.name ++ " " ++ entry.author.name ++ ": " ++ entry.message ++ "\n"

/-- The messages from a position of the journal on that are important enough. -/
def messagesSince (position : Nat) (level : LogLevel) (entries : List LogEntry) : List LogEntry :=
  (entries.drop position).filter fun entry => level.rank ≤ entry.level.rank

/-- The level from which on messages are told. -/
def levelOf (request : Request) (settings : Settings) : LogLevel :=
  if request.verbose then .debug else settings.logging.level

/-- Names without `..`, each of which takes the name before it away. -/
def collapse (names : List String) : List String :=
  names.foldl (fun done name => if name = ".." then done.dropLast else done ++ [name]) []

/-- The file of the journal, if there is one. -/
def journalFile (settings : Settings) (root : Path) : Option Path :=
  match settings.logging.file with
  | none => none
  | some file =>
    if file = "" then none
    else
      let path := root.append (.ofText file)
      some { path with names := collapse path.names }

/-- Make sure that the file of the journal can be written. -/
def openJournal (file : Path) : Disk.Action Unit := do
  unless ← Disk.isFile file do Disk.write file []

/-- Write messages at the end of a file. -/
def append (file : Path) (text : String) : Disk.Action Unit := do
  let data ← Disk.read file
  Disk.write file (data ++ octetsOf text)

/-- What is written in place of the time in the file of the journal. -/
abbrev TimeStamp := Moment → String

/-- Write the messages from a position of the journal on into its file; the position after
them. -/
def flush (stamp : TimeStamp) (level : LogLevel) (file : Option Path) (position : Nat) :
    StateM World Nat := do
  let world ← get
  let lines := (messagesSince position level world.journal).map (fileLine (stamp world.clock))
  if let some file := file then
    let (_, disk) := (append file (String.join lines)).run.run world.disk
    set { world with disk }
  return world.journal.length

/-! ## The workspace -/

/-- A text, unless it is empty. -/
def nonEmpty? (text : Option String) : Option String :=
  text.bind fun s => if s = "" then none else some s

/-- The root that is asked for. -/
def rootText? (request : Request) (settings : Settings) (vars : Cargo.Environment) :
    Option String :=
  (nonEmpty? request.workspace).or
    ((nonEmpty? settings.workspaceRoot).or
      (nonEmpty? (Table.get? Cargo.workspaceVariable vars)))

/-- **The command line decides about the root.** -/
theorem rootText?_flag {request : Request} {root : String} (settings : Settings)
    (vars : Cargo.Environment) (hne : root ≠ "") (h : request.workspace = some root) :
    rootText? request settings vars = some root := by
  simp [rootText?, nonEmpty?, h, hne]

/-- The workspace that a request is about. -/
def openWorkspace (request : Request) (settings : Settings) (vars : Cargo.Environment) :
    Run Workspace := do
  let root ← match rootText? request settings vars with
    | some text => onDisk (Disk.resolve (.ofText text))
    | none => do Workspace.defaultRoot (← Pipeline.currentDirectory)
  Workspace.open_ root

/-! ## Commands -/

/-- Clean a workspace. -/
def clean (workspace : Workspace) (everything : Bool) : Run Unit := do
  workspace.reset everything
  journal .program .info (Pipeline.cleanedMessage (← workspace.root) everything)

/-- The lines about a toolchain. -/
def toolchainText (toolchain : Toolchain) : String :=
  "llvm_version=" ++ toolchain.llvmVersion ++
    "\nnightly=" ++ Pipeline.flagText toolchain.nightly ++
    "\nclang=" ++ toolchain.clang ++
    "\nllvm_profdata=" ++ toolchain.llvmProfdata ++
    "\nllvm_cov=" ++ toolchain.llvmCov ++ "\n"

/-- The name of the document with the effective settings. -/
def settingsDocument : String := "config.yaml"

/-- How settings are written down; settings with a malformed reference are not. -/
abbrev SettingsWriter := Settings → Option String

/-- Write the effective settings into a workspace. -/
def keepSettings (write : SettingsWriter) (settings : Settings) (root : Path) : Run Unit :=
  match write settings with
  | some text => onDisk (Ir.writeWithDirectories (root.child settingsDocument) (octetsOf text))
  | none => throw .malformedReference

/-- No file is kept from being read. -/
def nothingForbidden : Forbidden := fun _ => false

/-- The lines about a report run. -/
def reportText (summary : ReportSummary) (reports : Path) : String :=
  "Reports: " ++ toString summary.reported.length ++ " generated, " ++
    toString summary.skipped.length ++ " skipped\n  reports_dir=" ++ reports.text ++ "\n"

/-- What a command does once the toolchain is known; what it prints.  The messages of the build tool
may nest `depth` deep. -/
def perform (depth : Nat) (pipeline : Pipeline) (tools : Toolbox) (request : Request) :
    Run String := do
  match request.verb with
  | .build =>
    let _ ← InstrumentedBuild.build pipeline tools request.passedOn
    let _ ← pipeline.finalize tools none nothingForbidden
    return ""
  | .run | .test =>
    let (forBuild, forBinaries) := Cargo.splitArguments request.passedOn
    let _ ← InstrumentedBuild.runWithCoverage depth pipeline tools request.verb.name forBuild
      forBinaries
    let _ ← pipeline.finalize tools none nothingForbidden
    return ""
  | .finalize =>
    let _ ← pipeline.finalize tools (request.buildRoot.map .ofText) nothingForbidden
    return ""
  | .merge =>
    let _ ← pipeline.merge tools request.passedOn
    return ""
  | .report =>
    let summary ← pipeline.report tools request.passedOn
    return reportText summary (← pipeline.workspace.store .reports)
  | .clean | .probe => return ""

/-- The report about a run, with the messages on the console. -/
def conclude (verb : Verb) (level : LogLevel) (start : Nat) (result : Except Fault String) :
    StateM World Report := do
  let world ← get
  let console := String.join ((messagesSince start level world.journal).map consoleLine)
  match result with
  | .ok out => return { out, err := console }
  | .error fault => return { status := 1, err := console ++ faultLine verb fault }

/-- The workspace of a request with the file of its journal. -/
def prepare (request : Request) (settings : Settings) (vars : Cargo.Environment) :
    Run (Workspace × Option Path) := do
  let workspace ← openWorkspace request settings vars
  let root ← workspace.root
  let file := if request.verb = .clean then none else journalFile settings root
  if let some file := file then onDisk (openJournal file)
  return (workspace, file)

/-- Carry out a request with composed settings. -/
def executeWith (write : SettingsWriter) (depth : Nat) (stamp : TimeStamp) (tools : Toolbox)
    (vars : Cargo.Environment) (request : Request) (settings : Settings) :
    StateM World Report := do
  let start := (← get).journal.length
  let level := levelOf request settings
  let finish := conclude request.verb level start
  match ← (prepare request settings vars).run with
  | .error fault => finish (.error fault)
  | .ok (workspace, file) =>
    if request.verb = .clean then
      let result ← (clean workspace request.everything).run
      finish (result.map fun _ => "")
    else
      let probed ← (Toolchain.probe tools settings.toolchain).run
      let position ← flush stamp level file start
      match probed with
      | .error fault => finish (.error fault)
      | .ok toolchain =>
        if request.verb = .probe then finish (.ok (toolchainText toolchain))
        else
          let run : Run String := do
            keepSettings write settings (← workspace.root)
            perform depth ⟨settings, toolchain, workspace⟩ tools request
          let result ← run.run
          let _ ← flush stamp level file position
          finish result

/-- Carry out a request with the settings that were composed for it, or tell why there are none. -/
def executeComposed (write : SettingsWriter) (depth : Nat) (stamp : TimeStamp) (tools : Toolbox)
    (vars : Cargo.Environment) (request : Request) (composed : Except String Settings) :
    StateM World Report :=
  match composed with
  | .error message => pure { status := 1, err := failedLine request.verb message }
  | .ok settings => executeWith write depth stamp tools vars request settings

end WasmCoverage.CommandLine
