import WasmCoverage.Number.Numeral
import WasmCoverage.Override.Operand

/-!
# Functions in override values

An operand can be the result of a function.  The conversions turn values into numbers, truth
values or texts, inside lists, records and choices too; several arguments of a conversion are a
choice.  The other functions choose, count, sort and shuffle.

Arguments stand in the places of parameters, first those without a name.  Of two arguments with
one name the later counts.  A function that is applied to arguments it cannot take has no result.

Main statement: `place?_nil`, parameters that need no argument may be left alone.
-/

namespace WasmCoverage.Override

open Operand

/-! ## Conversions -/

/-- What a value can be turned into. -/
inductive Conversion where
  | whole
  | real
  | truth
  | text
  deriving DecidableEq, Repr

/-- The conversions by their names. -/
def conversions : List (String × Conversion) :=
  [("int", .whole), ("float", .real), ("bool", .truth), ("str", .text)]

/-- A value as a whole number; a fraction is cut. -/
def toWhole? : Operand → Option Operand
  | .bool b => some (.integer (if b then 1 else 0))
  | .integer n => some (.integer n)
  | .real (.finite negative significand exponent) =>
    some (.integer (Double.truncate negative significand exponent))
  | .text s => (Numeral.read s).toOption.map .integer
  | _ => none

/-- A whole number as a double, unless it is out of range. -/
def doubleOf? (n : Int) : Option Double :=
  match Double.ofDecimal (n < 0) n.natAbs 0 with
  | .infinite _ => none
  | x => some x

/-- A value as a number with a fraction. -/
def toReal? : Operand → Option Operand
  | .bool b => (doubleOf? (if b then 1 else 0)).map .real
  | .integer n => (doubleOf? n).map .real
  | .real x => some (.real x)
  | .text s => (Numeral.real? s).map .real
  | _ => none

/-- A value as a truth value. -/
def toTruth? : Operand → Option Operand
  | .text s =>
    if s.toLower = "true" then some (.bool true)
    else if s.toLower = "false" then some (.bool false)
    else none
  | .null => some (.bool false)
  | .bool b => some (.bool b)
  | .integer n => some (.bool (n ≠ 0))
  | .real x => some (.bool !x.isZero)
  | .pattern => some (.bool true)
  | _ => none

/-- A value as a text. -/
def toText? : Operand → Option Operand
  | .bool b => some (.text (if b then "true" else "false"))
  | .integer n => some (.text (toString n))
  | .real x => some (.text x.text)
  | .text s => some (.text s)
  | _ => none

/-- The conversion of a value that holds no others. -/
def Conversion.scalar? : Conversion → Operand → Option Operand
  | whole => toWhole?
  | real => toReal?
  | truth => toTruth?
  | text => toText?

/-- Does the conversion give numbers? -/
def Conversion.isNumeric : Conversion → Bool
  | whole | real => true
  | truth | text => false

mutual

/-- A conversion applied to an operand and to all that it holds. -/
def convert? (conversion : Conversion) : Operand → Option Operand
  | .quoted _ s => conversion.scalar? (.text s)
  | .list items => (convertItems? conversion items).map .list
  | .record entries => (convertEntries? conversion entries).map .record
  | .choice simple items => (convertItems? conversion items).map (.choice simple)
  | .range bounds =>
    if conversion.isNumeric then (convertItems? conversion bounds).map .range else none
  | .interval bounds =>
    if conversion.isNumeric then (convertItems? conversion bounds).map .interval else none
  | operand => conversion.scalar? operand

/-- A conversion applied to items. -/
def convertItems? (conversion : Conversion) : List Operand → Option (List Operand)
  | [] => some []
  | item :: rest => do
    let item ← convert? conversion item
    let rest ← convertItems? conversion rest
    return item :: rest

/-- A conversion applied to the operands of entries. -/
def convertEntries? (conversion : Conversion) :
    List (Key × Operand) → Option (List (Key × Operand))
  | [] => some []
  | (key, operand) :: rest => do
    let operand ← convert? conversion operand
    let rest ← convertEntries? conversion rest
    return (key, operand) :: rest

end

/-! ## Types of arguments -/

/-- A number, as which a truth value counts. -/
def isNumber : Operand → Bool
  | .integer _ | .real _ | .bool _ => true
  | _ => false

/-- A number, a truth value or a text. -/
def isPrimitive : Operand → Bool
  | .text _ => true
  | operand => isNumber operand

/-- A value other than nothing. -/
def isElement : Operand → Bool
  | .list _ | .record _ => true
  | operand => isPrimitive operand

/-- A choice. -/
def isChoice : Operand → Bool
  | .choice _ _ => true
  | _ => false

/-- A choice or a range. -/
def isSequence : Operand → Bool
  | .range _ => true
  | operand => isChoice operand

/-- A list. -/
def isList : Operand → Bool
  | .list _ => true
  | _ => false

/-- A text or a list. -/
def isNames : Operand → Bool
  | .text _ | .list _ => true
  | _ => false

/-- Nothing. -/
def isNull : Operand → Bool
  | .null => true
  | _ => false

/-- A truth value. -/
def isTruth : Operand → Bool
  | .bool _ => true
  | _ => false

/-! ## Arguments -/

/-- An argument of a function, perhaps with a name. -/
structure Argument where
  name : Option String
  operand : Operand
  deriving Repr

/-- The arguments of a function by their places and by their names. -/
structure Arguments where
  placed : List Operand
  named : List (String × Operand)
  deriving Repr

namespace Arguments

/-- Arguments in order; those without a name come first.  Texts lose their quotes. -/
def ofList? (arguments : List Argument) : Option Arguments :=
  let placed := arguments.takeWhile (·.name.isNone)
  let others := arguments.drop placed.length
  if others.all (·.name.isSome) then
    some ⟨placed.map (·.operand.unquoted),
      Table.ofList (others.filterMap fun argument =>
        argument.name.map fun name => (name, argument.operand.unquoted))⟩
  else none

/-- The argument with a name, unless it is nothing. -/
def given? (arguments : Arguments) (name : String) : Option Operand :=
  (Table.get? name arguments.named).filter fun operand => !isNull operand

/-- Do all named arguments have one of these names and types? -/
def namesFit (arguments : Arguments) (types : List (String × (Operand → Bool))) : Bool :=
  arguments.named.all fun entry =>
    match Table.get? entry.1 types with
    | some fits => fits entry.2
    | none => false

end Arguments

/-- A parameter with a place of its own. -/
structure Parameter where
  name : String
  fits : Operand → Bool
  isOptional : Bool := false

/-- The arguments in the places of parameters, and nothing where none is given. -/
def place? : List Parameter → Arguments → Option (List (Option Operand))
  | [], arguments =>
    if arguments.placed.isEmpty && arguments.named.isEmpty then some [] else none
  | parameter :: rest, ⟨placed, named⟩ => do
    let own := Table.get? parameter.name named
    let (found, placed) ← match placed, own with
      | [], own => some (own, [])
      | first :: placed, none => some (some first, placed)
      | _ :: _, some _ => none
    let fits := match found with
      | some operand => parameter.fits operand
      | none => parameter.isOptional
    if !fits then none
    let others ← place? rest ⟨placed, Table.erase parameter.name named⟩
    return found :: others

/-- **Parameters that need no argument may be left alone.** -/
theorem place?_nil (parameters : List Parameter) (h : ∀ p ∈ parameters, p.isOptional = true) :
    place? parameters ⟨[], []⟩ = some (parameters.map fun _ => none) := by
  induction parameters with
  | nil => rfl
  | cons parameter rest ih =>
    have hp : parameter.isOptional = true := h parameter (by simp)
    have hr := ih fun p hm => h p (List.mem_cons_of_mem _ hm)
    simp [place?, Table.get?, Table.erase, hp, hr]

/-! ## Results -/

/-- Values with commas between them; nothing that stands for several values can be among them. -/
def simpleChoice? (items : List Operand) : Option Operand :=
  if items.any isSeveral then none else some (.choice true items)

/-- The result of a conversion. -/
def converted? (conversion : Conversion) (arguments : Arguments) : Option Operand := do
  if !arguments.namesFit [("value", fun _ => true)] then none
  match arguments.placed, arguments.given? "value" with
  | [], some operand => convert? conversion operand
  | [operand], none => convert? conversion operand
  | first :: second :: rest, none =>
    let items ← simpleChoice? (first :: second :: rest)
    convert? conversion items
  | _, _ => none

/-- A choice among operands. -/
def chosen? (arguments : Arguments) : Option Operand :=
  if !arguments.named.isEmpty ||
      !arguments.placed.all fun operand => isElement operand || isChoice operand then none
  else match arguments.placed with
    | [] => none
    | [.choice simple items] => if simple then some (.choice false items) else none
    | items => some (.choice false items)

/-- A range of numbers. -/
def ranged? (arguments : Arguments) : Option Operand := do
  let places ← place?
    [⟨"start", isNumber, false⟩, ⟨"stop", fun stop => isNumber stop || isNull stop, true⟩,
     ⟨"step", isNumber, true⟩] arguments
  return .range (places.filterMap id |>.filter isNumber)

/-- An interval of numbers. -/
def bounded? (arguments : Arguments) : Option Operand := do
  let places ← place? [⟨"start", isNumber, false⟩, ⟨"end", isNumber, false⟩] arguments
  let bounds ← (places.filterMap id).mapM toReal?
  return .interval bounds

/-- A pattern of names. -/
def matching? (arguments : Arguments) : Option Operand := do
  let _ ← place?
    [⟨"include", isNames, false⟩, ⟨"exclude", fun names => isNames names || isNull names, true⟩]
    arguments
  return .pattern

/-- Several values with texts as tags before them. -/
def tagged? (arguments : Arguments) : Option Operand := do
  if !arguments.namesFit [("sweep", fun sweep => isSeveral sweep || isNull sweep)] then none
  if arguments.placed.isEmpty then none
  let operands := arguments.placed ++ (arguments.given? "sweep").toList
  let last ← operands.getLast?
  if last.isSeveral && operands.dropLast.all (· matches .text _) then some last else none

/-- The types of the named arguments of sorting and shuffling. -/
def orderTypes : List (String × (Operand → Bool)) :=
  [("sweep", fun sweep => isSequence sweep || isNull sweep),
   ("list", fun items => isList items || isNull items)]

/-- What is put in order: a list, a choice or a range that is given by its name, or else the
arguments without a name. -/
def orderedOperands? (types : List (String × (Operand → Bool))) (arguments : Arguments) :
    Option (List Operand) :=
  if arguments.namesFit types &&
      arguments.placed.all fun operand => isElement operand || isSequence operand then
    match arguments.given? "list", arguments.given? "sweep" with
    | some items, _ => some [items]
    | none, some sweep => some [sweep]
    | none, none => some arguments.placed
  else none

/-- The operand that is shuffled.  One value alone is a list of it. -/
def shuffled? (arguments : Arguments) : Option Operand := do
  match ← orderedOperands? orderTypes arguments with
  | [operand] =>
    if isSequence operand || isList operand then some operand else some (.list [operand])
  | operands => simpleChoice? operands

/-- The operands in ascending or descending order; equal ones keep their order. -/
def sortBy? (descending : Bool) (items : List Operand) : Option (List Operand) :=
  if descending then (sort? items.reverse).map List.reverse else sort? items

/-- The sorted operand.  One value alone stays as it is. -/
def sorted? (arguments : Arguments) : Option Operand := do
  let operands ← orderedOperands? (("reverse", isTruth) :: orderTypes) arguments
  let descending := match arguments.given? "reverse" with
    | some (.bool b) => b
    | _ => false
  match operands with
  | [.choice simple items] => (sortBy? descending items).map (.choice simple)
  | [.list items] => (sortBy? descending items).map .list
  | [operand] => some operand
  | operands =>
    if operands.all isPrimitive then (sortBy? descending operands).map (.choice true) else none

/-- The functions that are no conversions, by their names. -/
def functions : List (String × (Arguments → Option Operand)) :=
  [("choice", chosen?), ("range", ranged?), ("interval", bounded?), ("glob", matching?),
   ("tag", tagged?), ("shuffle", shuffled?), ("sort", sorted?)]

/-- The result of a function that is applied to arguments. -/
def resultOf? (function : String) (arguments : List Argument) : Option Operand := do
  let arguments ← Arguments.ofList? arguments
  match Table.get? function conversions with
  | some conversion => converted? conversion arguments
  | none =>
    let apply ← Table.get? function functions
    apply arguments

end WasmCoverage.Override
