import WasmCoverage.Shell.State

/-!
# Signals

Signals have names and numbers.  A script sends them to its own shell, which they end.  The number
zero stands for the end of the shell itself, at which something may be done.

Main statement: `nodup_signals`, no number belongs to two signals.
-/

namespace WasmCoverage.Shell

/-- The signals by their names. -/
def signals : List (String × Nat) :=
  [("EXIT", 0), ("HUP", 1), ("INT", 2), ("QUIT", 3), ("ILL", 4), ("TRAP", 5), ("ABRT", 6),
   ("BUS", 7), ("FPE", 8), ("KILL", 9), ("USR1", 10), ("SEGV", 11), ("USR2", 12), ("PIPE", 13),
   ("ALRM", 14), ("TERM", 15)]

/-- **No number belongs to two signals.** -/
theorem nodup_signals : (signals.map (·.2)).Nodup := by decide

/-- The number of a signal that is given by its name or its number. -/
def signal? (text : String) : Option Nat :=
  match decimal? text with
  | some n => if n < signals.length then some n else none
  | none => Table.get? (String.ofList (text.toList.map Char.toUpper)) signals

/-- The signal that options ask for and the processes it is for, or the complaint about an
option. -/
def killOperands : List String → Except String (Nat × List String)
  | "-s" :: name :: rest =>
    match signal? name with
    | some signal => .ok (signal, rest)
    | none => .error ("invalid signal number or name: " ++ name)
  | word :: rest =>
    match word.toList with
    | '-' :: c :: more =>
      match signal? (String.ofList (c :: more)) with
      | some signal => .ok (signal, rest)
      | none => .error ("Illegal option -" ++ c.toString)
    | _ => .ok (15, word :: rest)
  | [] => .ok (15, [])

/-- Send a signal to processes, of which there is only the shell itself. -/
def sendTo (signal : Nat) : List String → Act Unit
  | [] => return ()
  | target :: rest => do
    if target ≠ toString (← get).process then refuse 1 "No such process"
    else if signal ≠ 0 then throw (.killed signal)
    sendTo signal rest

/-- Send a signal. -/
def kill (words : List String) : Act Unit := do
  match killOperands words with
  | .error text => refuse 2 text
  | .ok (signal, targets) =>
    setStatus 0
    sendTo signal targets

/-- Set what is done at the end of the shell. -/
def trap (words : List String) : Act Unit := do
  match words with
  | [action, name] =>
    if signal? name = some 0 then
      modify fun state => { state with
        atEnd := if action = "-" || action = "" then none else some action
        status := 0 }
    else refuse 1 (name ++ ": bad trap")
  | _ => refuse 1 "one action and one signal are expected"

end WasmCoverage.Shell
