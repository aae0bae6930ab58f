import WasmCoverage.Json.Display
import WasmCoverage.Json.Reader
import WasmCoverage.Text.Blank

/-!
# Executables in the build tool's messages

The build tool writes one JSON record per line, and text for human readers between them.  The
executables it built are named by records whose `reason` is `compiler-artifact`; the flag `test`
of the record's `profile` tells test binaries from others.

Lines that are not JSON are skipped.  Two things cannot be skipped: a number or a nesting beyond
the limits of the reader, and an executable whose profile is no record.
-/

namespace WasmCoverage.Cargo

open WasmCoverage.Text

/-- Why messages could not be read. -/
inductive MessageFault where
  | numeral (fault : NumeralFault)
  | tooDeep
  /-- The profile of an executable is not a record. -/
  | badProfile
  deriving DecidableEq, Repr

/-- The record on a line, or nothing for any other line; `depth` is how deep it may nest. -/
def message? (depth : Nat) (line : List Char) : Except MessageFault (Option Json) :=
  match trimChars line with
  | '{' :: rest =>
    match Json.read depth ('{' :: rest) with
    | .ok value => .ok (some value)
    | .error (.defect _ _) => .ok none
    | .error (.numeral fault) => .error (.numeral fault)
    | .error .tooDeep => .error .tooDeep
  | _ => .ok none

/-- Does the record report a built artifact? -/
def isArtifact (message : Json) : Bool :=
  match message.get? "reason" with
  | some (.text reason) => reason = ("compiler-artifact" : LooseText)
  | _ => false

/-- Was the artifact built for testing?  A profile that counts as false is as good as none. -/
def isTest (message : Json) : Except MessageFault Bool :=
  match message.get? "profile" with
  | none => .ok false
  | some profile =>
    if !profile.isTruthy then .ok false
    else match profile with
      | .record entries => .ok (((Json.Entries.get? "test" entries).map Json.isTruthy).getD false)
      | _ => .error .badProfile

/-- The executable that a record names, if it is one of the wanted kind. -/
def executable? (test : Bool) (message : Json) : Except MessageFault (Option String) :=
  if !isArtifact message then .ok none
  else match message.get? "executable" with
    | none => .ok none
    | some value =>
      if !value.isTruthy then .ok none
      else match isTest message with
        | .error fault => .error fault
        | .ok built => .ok (if built = test then some value.string else none)

/-- The executables that messages name, in order. -/
def executables (depth : Nat) (test : Bool) (output : String) :
    Except MessageFault (List String) := do
  let found ← (lines output.toList).mapM fun line => do
    match ← message? depth line with
    | none => return none
    | some message => executable? test message
  return found.filterMap id

end WasmCoverage.Cargo
