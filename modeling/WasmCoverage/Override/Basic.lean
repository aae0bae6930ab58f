import WasmCoverage.Override.Value
import WasmCoverage.Text.Split

/-!
# Overrides

An override changes one setting: `key=value` sets a setting that there is, `+key=value` adds one,
`++key=value` does either, and `~key` removes one, perhaps only if it has a certain value.  The
key is the way to the setting, with dots between its steps; an override of a whole group of
settings has slashes in its key, and may say after an `@` where the group goes.

Main statement: `read_keeps_line`, an override remembers how it was written.
-/

namespace WasmCoverage

open WasmCoverage.Lexeme

/-- What an override does to its setting. -/
inductive Override.Action where
  | set
  | add
  | force
  | remove
  deriving DecidableEq, Repr

/-- An override of a setting. -/
structure Override where
  line : String
  action : Override.Action
  key : String
  /-- Where a group of settings goes. -/
  target : Option String := none
  /-- What is written behind the equals sign. -/
  operand : Option Override.Operand
  deriving Repr

namespace Override

/-! ## Keys -/

/-- A step of a key that begins with a letter. -/
def isStep (step : List Char) : Bool :=
  match step with
  | c :: rest =>
    (beginsName c || c = '$') && rest.all fun d => isNameChar d || d = '-' || d = '$'
  | [] => false

/-- A step of a key that is a number. -/
def isIndex (step : List Char) : Bool :=
  !step.isEmpty && naturalLength step = step.length

/-- A way to a setting, which may be empty. -/
def isWay (text : List Char) : Bool :=
  match Text.splitOn '.' text with
  | [] => true
  | [single] => single.isEmpty || isStep single
  | steps => steps.all fun step => isStep step || isIndex step

/-- The name of a group: steps with slashes between them. -/
def isGroup (text : List Char) : Bool :=
  match Text.splitOn '/' text with
  | names@(_ :: _ :: _) => names.all isStep
  | _ => false

/-- The key and the target of a group, if they are well formed. -/
def readKey? (text : List Char) : Option (String × Option String) :=
  match Text.splitOn '@' text with
  | [key] => if isWay key || isGroup key then some (String.ofList key, none) else none
  | [key, target] =>
    if (isWay key || isGroup key) && isWay target then
      some (String.ofList key, some (String.ofList target))
    else none
  | _ => none

/-! ## Whole overrides -/

/-- The mark before a key and what follows it. -/
def readAction : List Char → Action × List Char
  | '~' :: rest => (.remove, rest)
  | '+' :: '+' :: rest => (.force, rest)
  | '+' :: rest => (.add, rest)
  | rest => (.set, rest)

/-- The override that a text spells. -/
def read (line : String) : Except Override.Fault Override := do
  let (action, body) := readAction line.toList
  let keyText := body.takeWhile (· ≠ '=')
  let (key, target) ← orMalformed (readKey? keyText)
  match body.drop keyText.length with
  | _ :: valueText =>
    let operand ← readValue valueText
    return { line, action, key, target, operand := some operand }
  | [] =>
    if action = .remove then return { line, action, key, target, operand := none }
    else throw .malformed

/-- **An override remembers how it was written.** -/
theorem read_keeps_line {line : String} {override : Override}
    (h : read line = .ok override) : override.line = line := by
  simp only [read, bind, Except.bind] at h
  repeat' split at h
  all_goals first
    | contradiction
    | (cases h; rfl)

end Override

end WasmCoverage
