import WasmCoverage.Disk.Operations
import WasmCoverage.Shell.Syntax

/-!
# A running shell

A shell has variables, arguments, functions and channels.  A channel leads to a file, to a pipe,
which is a row of octets, or nowhere; the pipes are kept by number, so that two channels may lead
to the same one.  What a shell does is a function on this state that may also stop it.
-/

namespace WasmCoverage.Shell

open WasmCoverage.Text

/-- How a process ends. -/
inductive Ending where
  | exited (status : Nat)
  | killed (signal : Nat)
  deriving DecidableEq, Repr

/-- The status that a shell sees of a process. -/
def Ending.status : Ending → Nat
  | exited status => status
  | killed signal => 128 + signal

/-- Where a channel leads. -/
inductive Channel where
  | nowhere
  | pipe (number : Nat)
  | file (location : Location)
  deriving DecidableEq, Repr

/-- The value of a variable, and whether programs that are called see it. -/
structure Variable where
  value : String
  exported : Bool
  deriving DecidableEq, Repr

/-- The state of a shell. -/
structure State where
  disk : Disk
  pipes : List Octets
  channels : List (Nat × Channel)
  vars : List (String × Variable)
  functions : List (String × Command) := []
  /-- What the shell calls itself in messages. -/
  name : String
  arguments : List String
  status : Nat := 0
  /-- The number of the process. -/
  process : Nat
  /-- Does a command that fails end the shell? -/
  strict : Bool := false
  line : Nat := 1
  /-- The command of the shell that is running, for complaints. -/
  about : Option String := none
  /-- In how many loops the shell is. -/
  loops : Nat := 0
  /-- What is done at the end of the shell. -/
  atEnd : Option String := none

/-- Why a shell or a part of it does not go on. -/
inductive Stop where
  | exit (status : Nat)
  | killed (signal : Nat)
  /-- Leave some loops. -/
  | leave (levels : Nat)
  /-- Leave all but the last of some loops, and go on with that one. -/
  | again (levels : Nat)
  /-- Leave the function. -/
  | back (status : Nat)
  deriving DecidableEq, Repr

/-- Something that a shell does. -/
abbrev Act := ExceptT Stop (StateM State)

/-! ## Channels -/

/-- The state after octets were written to where a channel leads. -/
def State.send (state : State) (octets : Octets) : Channel → State
  | .pipe number => { state with pipes := state.pipes.modify number (· ++ octets) }
  | .file location =>
    match state.disk.node? location with
    | some (.file data executable) =>
      { state with disk := state.disk.put location (.file (data ++ octets) executable) }
    | _ => state
  | .nowhere => state

/-- The state after octets were written to a channel. -/
def State.emit (state : State) (channel : Nat) (octets : Octets) : State :=
  match Table.get? channel state.channels with
  | some target => state.send octets target
  | none => state

/-- Write to a channel. -/
def emit (channel : Nat) (octets : Octets) : Act Unit :=
  modify (·.emit channel octets)

/-- Complain about a command. -/
def complain (text : String) : Act Unit := do
  let state ← get
  let about := match state.about with
    | some command => command ++ ": "
    | none => ""
  emit 2 (octetsOf (state.name ++ ": " ++ toString state.line ++ ": " ++ about ++ text ++ "\n"))

/-- Something done by a command of the shell, which complaints name. -/
def speaking (command : String) (act : Act Unit) : Act Unit := do
  let before := (← get).about
  modify fun state => { state with about := some command }
  try act
  catch stop =>
    modify fun state => { state with about := before }
    throw stop
  modify fun state => { state with about := before }

/-- What a channel has to read, taken from it. -/
def takeInput (channel : Nat) : Act Octets := do
  let state ← get
  match Table.get? channel state.channels with
  | some (.pipe number) =>
    set { state with pipes := state.pipes.set number [] }
    return state.pipes[number]?.getD []
  | _ => return []

/-- The next line that a channel has to read, taken from it, and whether it is complete. -/
def takeLine (channel : Nat) : Act (Octets × Bool) := do
  let octets ← takeInput channel
  let line := octets.takeWhile (· ≠ 10)
  let state ← get
  if let some (.pipe number) := Table.get? channel state.channels then
    set { state with pipes := state.pipes.set number (octets.drop (line.length + 1)) }
  return (line, line.length < octets.length)

/-- A new pipe with some octets in it. -/
def newPipe (octets : Octets) : Act Nat := do
  let state ← get
  set { state with pipes := state.pipes ++ [octets] }
  return state.pipes.length

/-! ## The status -/

/-- Set the status. -/
def setStatus (status : Nat) : Act Unit :=
  modify fun state => { state with status }

/-- Complain, and set the status. -/
def refuse (status : Nat) (text : String) : Act Unit := do
  complain text
  setStatus status

/-! ## Variables -/

/-- The number that digits spell. -/
def decimal? (text : String) : Option Nat :=
  if text.toList.all Char.isDigit then text.toNat? else none

/-- The value of a variable. -/
def State.value? (state : State) (name : String) : Option String :=
  (Table.get? name state.vars).map Variable.value

/-- The state with a value given to a variable. -/
def State.assign (state : State) (name value : String) (exported : Bool := false) : State :=
  let before := (Table.get? name state.vars).any Variable.exported
  let given : Variable := ⟨value, before || exported⟩
  { state with vars := Table.insert name given state.vars }

/-- Is the text the name of a variable? -/
def isName (text : String) : Bool :=
  match text.toList with
  | c :: rest => (c.isAlpha || c = '_') && rest.all fun d => d.isAlphanum || d = '_'
  | [] => false

/-- Refuse what is no name of a variable. -/
def demandName (text : String) : Act Unit := do
  unless isName text do
    complain (text ++ ": bad variable name")
    throw (.exit 2)

/-- Give a value to a variable. -/
def assign (name value : String) (exported : Bool := false) : Act Unit :=
  modify (·.assign name value exported)

/-- The value of a parameter that stands for one value. -/
def State.parameter? (state : State) (name : String) : Option String :=
  match name with
  | "#" => some (toString state.arguments.length)
  | "?" => some (toString state.status)
  | "$" => some (toString state.process)
  | "!" => none
  | "0" => some state.name
  | name =>
    match decimal? name with
    | some n => state.arguments[n - 1]?
    | none => state.value? name

/-- The characters that words are split at. -/
def State.separators (state : State) : List Char :=
  ((state.value? "IFS").getD " \t\n").toList

/-- A name has the value that it had before, if it had one. -/
def restoreVariable (vars : List (String × Variable)) (name : String) (before : Option Variable) :
    List (String × Variable) :=
  match before with
  | some variable_ => Table.insert name variable_ vars
  | none => Table.erase name vars

/-- The character between the arguments where they stand for one value. -/
def State.joint (state : State) : String :=
  match state.value? "IFS" with
  | none => " "
  | some separators => String.ofList (separators.toList.take 1)

/-! ## Running in a subordinate shell -/

/-- The state after a subordinate shell: the disk and the pipes stay as it left them. -/
def State.rejoin (before after : State) : State :=
  { before with disk := after.disk, pipes := after.pipes }

end WasmCoverage.Shell
