import WasmCoverage.Text.Blank
import WasmCoverage.Tool.Words

/-!
# Failures of external tools

A tool fails by an exit status other than zero, or because it could not be started or was ended
by a signal; the last two are told by a negative status.
-/

namespace WasmCoverage.Tool

open WasmCoverage.Text

/-- A tool that was run and failed. -/
structure Failure where
  argv : List String
  status : Int
  /-- What it wrote to its error stream, or why it could not be started. -/
  stderr : String
  deriving DecidableEq, Repr

/-- The wording of a failure. -/
def Failure.message (failure : Failure) : String :=
  let command := quoteWords failure.argv
  let detail := trim failure.stderr
  if failure.status < 0 then "Failed to execute command `" ++ command ++ "`: " ++ detail
  else
    let verdict := "Command `" ++ command ++ "` failed with status code " ++
      toString failure.status
    if detail = "" then verdict else verdict ++ ": " ++ detail

end WasmCoverage.Tool
