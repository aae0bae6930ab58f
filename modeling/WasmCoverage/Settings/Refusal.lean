import WasmCoverage.Override.Basic
import WasmCoverage.Settings.Decoding
import WasmCoverage.Template.Resolution

/-!
# Why settings cannot be composed

Either a line is no override, or an override or a choice of a group is refused, or the references
in the composed settings have no values, or what was composed describes no settings.
-/

namespace WasmCoverage

open WasmCoverage.Text

/-- Why an override cannot be applied. -/
inductive Refusal where
  /-- It stands for several values. -/
  | several
  /-- It adds a choice of a group by force. -/
  | forcedGroup
  /-- It says where a group goes, but there is no such group. -/
  | notGroup
  /-- It sets a setting that there is not. -/
  | unknown
  /-- It adds a setting that there is already. -/
  | present
  /-- It removes a setting that there is not. -/
  | absent
  /-- It removes a setting that has another value. -/
  | different (found : Json)
  /-- Its value does not go with the setting. -/
  | unmergeable
  /-- The places where modules with settings are looked for are no list of texts. -/
  | badSearch

/-- Are several values just written with commas between them? -/
def isSimpleChoice (override : Override) : Bool :=
  override.operand matches some (.choice true _)

/-- The value of an override; nothing if none is written. -/
def Override.written (override : Override) : Override.Operand :=
  (override.operand.getD .null).unquoted

/-- The wording of a refusal of an override. -/
def Refusal.message (override : Override) : Refusal → String
  | several =>
    if isSimpleChoice override then
      "Ambiguous value for argument '" ++ override.line ++
        "'\n1. To use it as a list, use key=[value1,value2]" ++
        "\n2. To use it as string, quote the value: key='value1,value2'" ++
        "\n3. To sweep over it, add --multirun to your command line"
    else "Sweep parameters '" ++ override.line ++ "' requires --multirun"
  | forcedGroup => "force-add of config groups is not supported: '" ++ override.line ++ "'"
  | notGroup =>
    "Override " ++ override.line ++ " looks like a config group override, but config group '" ++
      override.key ++ "' does not exist."
  | unknown =>
    "Could not override '" ++ override.key ++ "'.\nTo append to your config use +" ++ override.line
  | present =>
    "Could not append to config. An item is already at '" ++ override.key ++
      "'.\nEither remove + prefix: '" ++ String.ofList (override.line.toList.drop 1) ++
      "'\nOr add a second + to add or override '" ++ override.key ++ "': '+" ++ override.line ++
      "'\n"
  | absent => "Could not delete from config. '" ++ override.key ++ "' does not exist."
  | different found =>
    "Could not delete from config. The value of '" ++ override.key ++ "' is " ++ found.string ++
      " and not " ++ ((override.written.value?.map Json.string).getD "") ++ "."
  | unmergeable => "Error merging override " ++ override.line
  | badSearch => override.key ++ " must be a list of strings"

/-- Why a choice of a group cannot be made. -/
inductive GroupFault where
  /-- A choice must be given. -/
  | ungiven
  /-- It is made by a reference. -/
  | byReference
  /-- It is made twice for one place. -/
  | repeated
  /-- There is no such place to make it for, or to remove. -/
  | unused
  /-- Its content does not go with the settings. -/
  | unmergeable

/-- The wording of a fault of a choice of a group. -/
def GroupFault.message (key : String) : GroupFault → String
  | ungiven => "You must specify '" ++ key ++ "', e.g, " ++ key ++ "=<OPTION>"
  | byReference => "Defaults List interpolation is not supported in options list items"
  | repeated => key ++ " appears more than once in the final defaults list"
  | unused => "Could not override '" ++ key ++ "'. No match in the defaults list."
  | unmergeable => "In '" ++ key ++ "': error merging"

/-- Why settings cannot be composed. -/
inductive CompositionFault where
  /-- This is no override. -/
  | malformed (line : String)
  /-- A numeral has no value. -/
  | numeral (fault : NumeralFault)
  | refused (override : Override) (refusal : Refusal)
  | group (key : String) (fault : GroupFault)
  /-- There are no defaults, or no choice, of this name. -/
  | unavailable (name : String)
  /-- A group can be chosen by a text or a list only; the type of the value is given. -/
  | badChoice (type : String)
  /-- The choice of a group can be removed by a text only. -/
  | badRemoval (override : Override)
  /-- A choice in a list must be given. -/
  | openChoice (path : String)
  /-- Settings cannot be looked for in places of this kind. -/
  | noSource (scheme : String)
  /-- An item of a list is no choice, or cannot be removed by itself. -/
  | badItem
  /-- The way leads through a record or a list that is nothing. -/
  | throughNothing
  /-- The number is infinite where a whole number is expected. -/
  | infinite
  /-- The value is nested too deeply. -/
  | tooDeep
  /-- The section about the composition lacks what the composition needs. -/
  | unprepared
  /-- The environment lacks a variable that a job needs. -/
  | noVariable (name : String)
  | reference (fault : Template.Fault)
  /-- The composed tree does not describe settings. -/
  | mapping (fault : Settings.MappingFault)

/-- The name that the settings as a whole have in messages. -/
def settingsName : String := "WasmcovConfig"

/-- The first step to a leaf. -/
def firstStep (leaf : Payload.Leaf) : Option Payload.Segment :=
  leaf.way.head?

/-- How many parts of the settings are flawed; everything wrong with one section counts once. -/
def flawedParts (leaves : List Payload.Leaf) : Nat :=
  let steps := leaves.map firstStep
  (steps.filterMap id).eraseDups.length + (steps.filter Option.isNone).length

/-- The message about settings that are flawed. -/
def flawedMessage (leaves : List Payload.Leaf) : String :=
  let parts := flawedParts leaves
  "While structuring " ++ settingsName ++ " (" ++ toString parts ++
    (if parts = 1 then " sub-exception)" else " sub-exceptions)")

/-- The wording of a reference without a value. -/
def referenceMessage : Template.Fault → String
  | .malformed => "A reference is not well formed"
  | .unknownKey => "Interpolation key not found"
  | .missing => "Missing mandatory value"
  | .unknownSource => "Unsupported interpolation type"
  | .unresolvable => "Recursive interpolation detected"

/-- The parts of an override that removes a choice, in the notation of messages. -/
def shownRemoval (override : Override) : String :=
  "Override(type=<OverrideType.DEL: 4>, key_or_group=" ++ quote override.key ++
    ", value_type=<ValueType.ELEMENT: 1>, _value=" ++ (override.operand.getD .null).shown ++
    ", package=" ++ (Json.ofString? override.target).shown ++
    ", input_line=" ++ quote override.line ++ ", config_loader=None)"

/-- The wording of a fault of composition. -/
def CompositionFault.message : CompositionFault → String
  | malformed line => "Error parsing override '" ++ line ++ "'"
  | numeral fault => fault.message
  | refused override refusal => refusal.message override
  | group key fault => fault.message key
  | unavailable name => "Cannot find primary config '" ++ name ++ "'."
  | badChoice type => "Config group override must be a string or a list. Got " ++ type
  | badRemoval override =>
    "Config group override deletion value must be a string : " ++ shownRemoval override
  | openChoice path => "Missing ConfigDefault is not supported : " ++ path
  | noSource scheme =>
    "No config source registered for schema " ++ scheme ++
      ", supported types : [file, pkg, structured]"
  | badItem => "list indices must be integers or slices"
  | throughNothing => ""
  | infinite => "cannot convert float infinity to integer"
  | tooDeep => "maximum recursion depth exceeded"
  | unprepared => "Error composing settings"
  | noVariable name => quote name
  | reference fault => referenceMessage fault
  | mapping (.pairs fault) => fault.message
  | mapping (.flawed leaves) => flawedMessage leaves

end WasmCoverage
