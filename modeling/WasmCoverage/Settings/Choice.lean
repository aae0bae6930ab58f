import WasmCoverage.Settings.Group
import WasmCoverage.Settings.Refusal

/-!
# Choices of groups

Overrides of groups are told apart from those of single settings.  They make another choice than
the usual one, or several, or none, or they add a choice that goes to a place of its own.  In the
name of the place `_name_` stands for the name of the choice, and what comes up to `_global_` is
left out.

Every group of the section about the composition has its choice; every override must concern one
of the choices, and no two choices may concern the same group and place.
-/

namespace WasmCoverage.Composition

open WasmCoverage.Text WasmCoverage.Template

/-- Overrides told apart. -/
structure Sorted where
  /-- Choices for groups, by the groups with their places. -/
  choices : List (String × Json) := []
  /-- Groups with their places for which no choice is made, or not the named one. -/
  removals : List (String × Option String) := []
  /-- Choices that are added, with the places that they go to. -/
  added : List (Group × Option String × Json) := []
  /-- The overrides of single settings. -/
  single : List Override := []

/-- The name of the type of a value that no group can be chosen by. -/
def badChoice? : Override.Operand → Option String
  | .bool _ => some "bool"
  | .integer _ => some "int"
  | .real _ => some "float"
  | .null => some "NoneType"
  | _ => none

/-- A group with its place, as an override names it. -/
def groupKey (name : String) (target : Option String) : String :=
  match target with
  | some target => name ++ "@" ++ target
  | none => name

/-- The name or the names that an operand holds; nothing stands for what is no name. -/
def choiceOf : Override.Operand → Json
  | .list items => .list (items.map fun item => (item.value?).getD .null)
  | operand => (operand.value?).getD .null

/-- Overrides told apart, with one more. -/
def Sorted.put (sorted : Sorted) (override : Override) : Except CompositionFault Sorted :=
  let single := { sorted with single := sorted.single ++ [override] }
  match group? override.key, override.written with
  | none, _ | _, .record _ => .ok single
  | some group, operand =>
    let key := groupKey override.key override.target
    match override.action, operand, badChoice? operand with
    | .force, _, _ => .error (.refused override .forcedGroup)
    | .remove, .null, _ => .ok { sorted with removals := Table.insert key none sorted.removals }
    | .remove, .text s, _ =>
      .ok { sorted with removals := Table.insert key (some s) sorted.removals }
    | .remove, _, _ => .error (.badRemoval override)
    | _, _, some type => .error (.badChoice type)
    | .add, _, none =>
      .ok { sorted with added := sorted.added ++ [(group, override.target, choiceOf operand)] }
    | .set, _, none =>
      .ok { sorted with choices := Table.insert key (choiceOf operand) sorted.choices }

/-- Overrides told apart. -/
def sort (overrides : List Override) : Except CompositionFault Sorted :=
  overrides.foldlM Sorted.put {}

/-! ## Making choices -/

/-- A group for which a choice is made. -/
structure Slot where
  group : Group
  /-- Where the choice goes, if that is said. -/
  target : Option String := none
  /-- The name of the choice, or several. -/
  value : Json

/-- A place with the name of a choice put in, without what comes up to `_global_`. -/
def expand (target : String) (name : Option String) : String :=
  let named := match name with
    | some name => target.replace "_name_" name
    | none => target
  match (named.splitOn "_global_").reverse with
  | last :: _ :: _ => String.ofList (last.toList.drop 1)
  | _ => named

/-- The place that a choice goes to. -/
def Slot.place (slot : Slot) : String :=
  match slot.target, slot.value with
  | none, _ => slot.group.place
  | some target, .text name => expand target (some name.lossy)
  | some target, _ => expand target none

/-- The group with the place that its choice goes to, as overrides name it. -/
def Slot.key (slot : Slot) : String :=
  if slot.place = slot.group.place then slot.group.name
  else groupKey slot.group.name (some (if slot.place = "" then "_global_" else slot.place))

/-- A choice that was made. -/
structure Chosen where
  /-- The groups, with their places, that no other choice may concern. -/
  keys : List String
  /-- Where the content goes. -/
  way : String
  content : Json

/-- The groups that a choice concerns. -/
def Slot.keys (slot : Slot) : List String :=
  if slot.key = ownName then slot.key :: ownGroups.map (·.name) else [slot.key]

/-- Where the content of a choice goes. -/
def Slot.way (slot : Slot) : String :=
  match slot.target with
  | none => slot.group.home.getD slot.place
  | some _ => slot.place

/-- The slot with the choice that overrides make for it. -/
def Slot.overridden (sorted : Sorted) (slot : Slot) : Slot :=
  { slot with value := (Table.get? slot.key sorted.choices).getD slot.value }

/-- Is no choice to be made for the slot? -/
def Slot.isRemoved (sorted : Sorted) (slot : Slot) : Bool :=
  match slot.value, Table.get? slot.key sorted.removals with
  | .text _, some none => true
  | .text name, some (some s) => name.lossy = s
  | _, _ => false

/-- Must the choice still be given? -/
def isOpenChoice (name : String) : Bool :=
  missingMark.toList.isSuffixOf name.toList

/-- One choice of several for a slot. -/
def Slot.chooseItem (slot : Slot) (item : Json) : Except CompositionFault Chosen :=
  match item with
  | .text name =>
    let path := slot.group.name ++ "/" ++ name.lossy
    if mentions name.chars then .error (.group slot.key .byReference)
    else if isOpenChoice name.lossy then .error (.openChoice path)
    else match slot.group.choice? name.lossy with
      | some content =>
        let place := { slot with value := item }
        .ok ⟨[], place.way, content⟩
      | none => .error (.unavailable path)
  | _ => .error .badItem

/-- The choices made for a slot. -/
def Slot.choose (sorted : Sorted) (slot : Slot) : Except CompositionFault (List Chosen) :=
  match slot.value with
  | .list items => (items.reverse.mapM slot.chooseItem).map List.reverse
  | .text name =>
    if mentions name.chars then .error (.group slot.key .byReference)
    else if slot.isRemoved sorted then .ok []
    else if isOpenChoice name.lossy then .error (.group slot.key .ungiven)
    else match slot.group.choice? name.lossy with
      | some content => .ok [⟨slot.keys, slot.way, content⟩]
      | none => .error (.unavailable (slot.group.name ++ "/" ++ name.lossy))
  | _ => .error .badItem

/-- The slots that choices are made for, the added ones last. -/
def slotsOf (sorted : Sorted) : List Slot :=
  let own : List Slot := ownGroups.map fun group => ⟨group, none, .text group.usual⟩
  let added : List Slot := sorted.added.map fun (group, target, value) => ⟨group, target, value⟩
  (own ++ added).map (Slot.overridden sorted)

/-- A group, with its place, that two choices concern. -/
def repeated? : List String → Option String
  | [] => none
  | key :: rest => if rest.contains key then some key else repeated? rest

/-- A choice or a removal that concerns none of the slots. -/
def unused? (sorted : Sorted) (slots : List Slot) : Option String :=
  let choice := sorted.choices.find? fun (key, _) => slots.all fun slot => slot.key ≠ key
  let removal := sorted.removals.find? fun (key, _) =>
    slots.all fun slot => !(slot.isRemoved sorted && slot.key = key)
  (choice.map (·.1)) <|> (removal.map (·.1))

/-- All choices that are made. -/
def chooseAll (sorted : Sorted) : Except CompositionFault (List Chosen) := do
  let slots := slotsOf sorted
  let found ← slots.reverse.mapM (Slot.choose sorted)
  let chosen := found.reverse.flatten
  if let some key := repeated? (chosen.flatMap (·.keys)) then throw (.group key .repeated)
  if let some key := unused? sorted slots then throw (.group key .unused)
  return chosen

/-! ## Merging choices -/

/-- A record with a content at the end of some steps. -/
def nest (content : Json) : List String → Json
  | [] => content
  | step :: steps => .record [((step : Key), nest content steps)]

/-- The entries of the tree with what was chosen merged in. -/
def mergeChosen (entries : List (Key × Tree)) (chosen : Chosen) :
    Except CompositionFault (List (Key × Tree)) :=
  let steps := if chosen.way = "" then [] else splitText '.' chosen.way
  match nest chosen.content steps with
  | .record new =>
    (merge true rootShape entries new).mapError fun _ => .group chosen.way .unmergeable
  | _ => .ok entries

/-- The tree that overrides of single settings are applied to. -/
def chosenTree (defaults : Defaults) (sorted : Sorted) : Except CompositionFault Tree := do
  if defaults = .own then throw (.group ownName .repeated)
  let chosen ← chooseAll sorted
  let entries ← chosen.foldlM mergeChosen defaults.entries
  return .record entries

end WasmCoverage.Composition
