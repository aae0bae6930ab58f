import WasmCoverage.Shell.State

/-!
# Opening files for channels

A redirection leads a channel to a file, to what another channel leads to, or nowhere.  Some paths
stand for channels.  What cannot be opened is complained about in words that say what was tried.

Main statement: `redirect_get?`, a channel leads where it was led to.
-/

namespace WasmCoverage.Shell

open WasmCoverage.Text

/-- The words for a failed redirection. -/
def reasonFor (creating : Bool) (error : Disk.Error) : String :=
  match error with
  | .system refusal =>
    if refusal.code = 2 ∨ refusal.code = 20 then
      if creating then "Directory nonexistent" else "No such file"
    else refusal.text
  | error => error.message

/-- An action on the disk. -/
def onDiskOf {α : Type} (action : Disk.Action α) : Act (Except Disk.Error α) := do
  let state ← get
  let (result, disk) := action.run.run state.disk
  set { state with disk }
  return result

/-- The files that stand for channels. -/
def channelFiles : List (String × Nat) :=
  [("/dev/stdin", 0), ("/dev/stdout", 1), ("/dev/stderr", 2)]

/-- Open a file for writing. -/
def openForWriting (target : String) (append : Bool) : Act (Except String Channel) := do
  if target = "/dev/null" then return .ok .nowhere
  if let some number := Table.get? target channelFiles then
    return .ok ((Table.get? number (← get).channels).getD .nowhere)
  if target = "" then return .error "cannot create : Directory nonexistent"
  let path := Path.ofText target
  let opened ← onDiskOf do
    let there ← Disk.isFile path
    unless append && there do Disk.write path []
    Disk.locate path true
  match opened with
  | .ok location => return .ok (.file location)
  | .error error =>
    return .error ("cannot create " ++ target ++ ": " ++ reasonFor true error)

/-- Does a path lead to a directory? -/
def isDirectoryAt (target : String) : Act Bool := do
  match (← get).disk.look (.ofText target) true with
  | .ok node => return node = .directory
  | .error _ => return false

/-- Open a file for reading.  A directory can be opened, but there is nothing to read. -/
def openForReading (target : String) : Act (Except String Channel) := do
  if target = "/dev/null" then return .ok .nowhere
  if target = "" then return .error "cannot open : No such file"
  match ← onDiskOf (Disk.read (.ofText target)) with
  | .ok data => return .ok (.pipe (← newPipe data))
  | .error error =>
    if ← isDirectoryAt target then return .ok .nowhere
    return .error ("cannot open " ++ target ++ ": " ++ reasonFor false error)

/-- The channel that another one is a duplicate of; nothing if it is to be closed. -/
def duplicateOf (target : String) : Act (Except String (Option Channel)) := do
  if target = "-" then return .ok none
  match target.toNat? with
  | none => return .error "Syntax error: Bad fd number"
  | some number =>
    match Table.get? number (← get).channels with
    | some channel => return .ok (some channel)
    | none => return .error (target ++ ": Bad file descriptor")

/-- Lead a channel elsewhere. -/
def redirect (number : Nat) (channel : Option Channel) : Act Unit :=
  modify fun state => { state with channels := match channel with
    | some channel => Table.insert number channel state.channels
    | none => Table.erase number state.channels }

/-- **A channel leads where it was led to.** -/
theorem redirect_get? (number : Nat) (channel : Channel) (state : State) :
    Table.get? number ((redirect number (some channel)).run.run state).2.channels =
      some channel :=
  Table.get?_insert_self number channel state.channels

end WasmCoverage.Shell
