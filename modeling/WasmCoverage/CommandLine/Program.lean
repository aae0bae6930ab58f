import WasmCoverage.CommandLine.Execution
import WasmCoverage.Settings.Composition
import WasmCoverage.Settings.Document

/-!
# Requests with overrides

The settings of a request are composed from the defaults and its overrides, by the variables of the
environment and the clock, and they are kept as the document that `Settings.document?` writes.
-/

namespace WasmCoverage.CommandLine

/-- The name of the defaults that settings are composed from. -/
def defaultsName : String := "config"

/-- The settings that are composed for a request at a time, or the words about why there are none.
There is so much `room` to store a value. -/
def settingsFor (room : Nat) (vars : Cargo.Environment) (request : Request) (clock : Moment) :
    Except String Settings :=
  let around : Composition.Surroundings := ⟨vars, clock, room⟩
  (Settings.compose around defaultsName request.overrides).mapError CompositionFault.message

/-- Carry out a request. -/
def execute (depth room : Nat) (stamp : TimeStamp) (tools : Toolbox) (vars : Cargo.Environment)
    (request : Request) : StateM World Report := fun world =>
  let composed := settingsFor room vars request world.clock
  executeComposed Settings.document? depth stamp tools vars request composed world

end WasmCoverage.CommandLine
