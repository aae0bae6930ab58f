import WasmCoverage.Disk.Basic
import WasmCoverage.Shell.Number

/-!
# Conditions

What the command `test` decides: whether texts are empty or equal, how whole numbers compare, and
what paths lead to.  How many words there are says which of them is the operator.
-/

namespace WasmCoverage.Shell.Condition

/-- Why words are not a condition. -/
inductive Fault where
  | unexpected (word : String)
  | noNumber (text : String)
  deriving DecidableEq, Repr

/-- The wording of a fault. -/
def Fault.message : Fault → String
  | unexpected word => word ++ ": unexpected operator"
  | noNumber text => "Illegal number: " ++ text

/-- A comparison of whole numbers. -/
def comparison? : String → Option (Int → Int → Bool)
  | "-eq" => some fun m n => m = n
  | "-ne" => some fun m n => m ≠ n
  | "-lt" => some fun m n => m < n
  | "-le" => some fun m n => m ≤ n
  | "-gt" => some fun m n => m > n
  | "-ge" => some fun m n => m ≥ n
  | _ => none

/-- The whole number that an operand is. -/
def number (text : String) : Except Fault Int :=
  match Number.whole? (Number.digitsIn? 10) text with
  | some n => .ok n
  | none => .error (.noNumber text)

/-- What an operand leads to, if it is a path. -/
def node? (disk : Disk) (operand : String) : Option Node :=
  if operand = "" then none else (disk.look (.ofText operand) true).toOption

/-- Does an operator hold of one operand? -/
def unary (disk : Disk) (operator operand : String) : Except Fault Bool :=
  match operator with
  | "-n" => .ok (operand ≠ "")
  | "-z" => .ok (operand = "")
  | "-e" => .ok (node? disk operand).isSome
  | "-d" => .ok (node? disk operand = some .directory)
  | "-f" => .ok <| (node? disk operand).any (· matches .file _ _)
  | "-x" => .ok <| (node? disk operand).any (!· matches .file _ false)
  | _ => .error (.unexpected operator)

/-- Does an operator hold of two operands? -/
def binary (first operator second : String) : Except Fault Bool :=
  match operator with
  | "=" => .ok (first = second)
  | "!=" => .ok (first ≠ second)
  | operator =>
    match comparison? operator with
    | some compare => do
      let m ← number first
      let n ← number second
      return compare m n
    | none => .error (.unexpected operator)

/-- Is it an operator between two operands? -/
def isBinary (word : String) : Bool :=
  ["=", "!="].contains word || (comparison? word).isSome

/-- Does a condition hold? -/
def holds (disk : Disk) : List String → Except Fault Bool
  | [] => .ok false
  | [operand] => .ok (operand ≠ "")
  | ["!", operator, operand] =>
    if isBinary operator then binary "!" operator operand
    else (holds disk [operator, operand]).map (!·)
  | "!" :: rest => (holds disk rest).map (!·)
  | [operator, operand] => unary disk operator operand
  | [first, operator, second] => binary first operator second
  | word :: _ => .error (.unexpected word)

end WasmCoverage.Shell.Condition
