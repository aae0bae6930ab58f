import WasmCoverage.Shell.Condition
import WasmCoverage.Shell.Fields
import WasmCoverage.Shell.Format
import WasmCoverage.Shell.Signal
import WasmCoverage.Text.Trim

/-!
# Commands of the shell itself

The commands that need no program and run no other command: output, conditions, the arguments and
variables, signals, and leaving a loop, a function or the shell.  Each sets the status.
-/

namespace WasmCoverage.Shell

open WasmCoverage.Text

/-! ## Leaving -/

/-- The number that an operand gives. -/
def numberOperand (default : Nat) (words : List String) : Act Nat := do
  match words with
  | [] => return default
  | word :: _ =>
    match decimal? word with
    | some n => return n
    | none =>
      complain ("Illegal number: " ++ word)
      throw (.exit 2)

/-- Leave some of the loops that the shell is in, as the operand says. -/
def leaveLoops (stop : Nat → Stop) (words : List String) : Act Unit := do
  let levels ← numberOperand 1 words
  if levels = 0 then
    complain "Illegal number: 0"
    throw (.exit 2)
  setStatus 0
  let loops := (← get).loops
  if loops > 0 then throw (stop (min levels loops))

/-! ## Arguments and variables -/

/-- Drop arguments. -/
def shift (words : List String) : Act Unit := do
  let count ← numberOperand 1 words
  let state ← get
  if count > state.arguments.length then
    complain "can't shift that many"
    throw (.exit 2)
  else set { state with arguments := state.arguments.drop count, status := 0 }

/-- The name and the value in an assignment. -/
def nameAndValue (word : String) : String × Option String :=
  let name := word.toList.takeWhile (· ≠ '=')
  let rest := word.toList.drop name.length
  (String.ofList name, if rest.isEmpty then none else some (String.ofList (rest.drop 1)))

/-- Let programs see variables. -/
def export_ (words : List String) : Act Unit := do
  for word in words do
    let (name, value) := nameAndValue word
    demandName name
    if let some value := value.or ((← get).value? name) then assign name value true
  setStatus 0

/-- Forget variables. -/
def unset (words : List String) : Act Unit := do
  for word in words do
    demandName word
    modify fun state => { state with vars := Table.erase word state.vars }
  setStatus 0

/-- Set whether the shell is strict, or its arguments. -/
def setAll (words : List String) : Act Unit := do
  match words with
  | "-e" :: _ => modify fun state => { state with strict := true }
  | "+e" :: _ => modify fun state => { state with strict := false }
  | "--" :: arguments => modify fun state => { state with arguments }
  | [] => pure ()
  | arguments => modify fun state => { state with arguments }
  setStatus 0

/-- Give the fields of a line to variables.  The last one gets all that is left. -/
def distribute (isSeparator : Char → Bool) : List String → List Char → Act Unit
  | [], _ => pure ()
  | [last], line => assign last (String.ofList (trimWhile isSeparator line))
  | name :: rest, line => do
    let field := line.takeWhile (!isSeparator ·)
    assign name (String.ofList field)
    distribute isSeparator rest ((line.drop field.length).dropWhile isSeparator)

/-- Read a line into variables. -/
def read (words : List String) : Act Unit := do
  let names := words.filter (· ≠ "-r")
  names.forM demandName
  let (line, isComplete) ← takeLine 0
  let isSeparator := (← get).separators.contains
  distribute isSeparator names ((decodeLossy line).toList.dropWhile isSeparator)
  setStatus (if isComplete then 0 else 1)

/-! ## All of them -/

/-- Decide a condition. -/
def decideCondition (words : List String) : Act Unit := do
  let state ← get
  match Condition.holds state.disk words with
  | .ok holds => setStatus (if holds then 0 else 1)
  | .error fault => refuse 2 fault.message

/-- Write formatted output. -/
def print (words : List String) : Act Unit := do
  match words with
  | [] => refuse 2 "usage: printf format [arg ...]"
  | format :: arguments =>
    let printed := printFormat format arguments
    emit 1 printed.octets
    setStatus 0
    printed.complaints.forM (refuse 1)
    printed.malformed.forM (refuse 2)

/-- The command of the shell with a name. -/
def builtin? (name : String) (words : List String) : Option (Act Unit) :=
  (speaking name ·) <$> match name with
  | ":" | "true" => some (setStatus 0)
  | "false" => some (setStatus 1)
  | "echo" => some do
    emit 1 (echo words)
    setStatus 0
  | "printf" => some (print words)
  | "test" => some (decideCondition words)
  | "[" => some <|
    if words.getLast? = some "]" then decideCondition words.dropLast
    else refuse 2 "missing ]"
  | "exit" => some do throw (.exit (← numberOperand (← get).status words))
  | "return" => some do throw (.back (← numberOperand (← get).status words))
  | "break" => some (leaveLoops .leave words)
  | "continue" => some (leaveLoops .again words)
  | "shift" => some (shift words)
  | "export" => some (export_ words)
  | "unset" => some (unset words)
  | "set" => some (setAll words)
  | "read" => some (read words)
  | "pwd" => some do
    emit 1 (octetsOf ((Disk.pathOf (← get).disk.here).text ++ "\n"))
    setStatus 0
  | "kill" => some (kill words)
  | "trap" => some (trap words)
  | _ => none

end WasmCoverage.Shell
