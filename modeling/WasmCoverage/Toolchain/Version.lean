import WasmCoverage.Text.DecimalDigit
import WasmCoverage.Text.Occurrence

/-!
# What the compiler says about itself

The active compiler's report is searched for the word `nightly` and for the major version of its
LLVM, the digits after `LLVM version: `.
-/

namespace WasmCoverage.Toolchain

open WasmCoverage.Text

/-- What stands before the version. -/
def versionLabel : List Char := "LLVM version: ".toList

/-- The digits after the first label that is followed by a digit. -/
def versionDigits? : List Char → Option (List Char)
  | [] => none
  | c :: rest =>
    if versionLabel.isPrefixOf (c :: rest) then
      match ((c :: rest).drop versionLabel.length).takeWhile isDecimalDigit with
      | [] => versionDigits? rest
      | digits => some digits
    else versionDigits? rest

/-- What a compiler's report tells. -/
structure Report where
  nightly : Bool
  version : String
  deriving DecidableEq, Repr

/-- What a compiler's report tells, if it names its version. -/
def Report.read? (output : String) : Option Report :=
  (versionDigits? output.toList).map fun digits =>
    ⟨textOccursIn "nightly" output, String.ofList digits⟩

/-- The message about a report without a version. -/
def unreadableReport (output : String) : String :=
  "Failed to parse rustc output: " ++ output

end WasmCoverage.Toolchain
