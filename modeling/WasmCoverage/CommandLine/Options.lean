import WasmCoverage.Text.DecimalDigit
import WasmCoverage.Text.Quoted
import WasmCoverage.Text.Split

/-!
# Options

The words of a command line are options, values of options, and operands.  An option may be given
by any beginning of its long spelling that no other option shares; its value is the next word, or
what follows an equals sign.  Short spellings may be run together in one word, up to one whose
option takes the rest of the word as its value.  A word that looks like an option but is none is
left over, and so is an operand that nobody asks for.

Every word is classified before anything is done with any of them, so that an ambiguous word is
refused wherever it stands.
-/

namespace WasmCoverage.CommandLine

open WasmCoverage.Text

/-- An option with its spellings. -/
structure Option_ (κ : Type) where
  key : κ
  spellings : List String
  takesValue : Bool := false
  /-- Does the option ask for help? -/
  isHelp : Bool := false
  deriving DecidableEq, Repr

/-- What ends the reading of a command line. -/
inductive End where
  | help
  /-- The command line of a program is wrong. -/
  | misuse (program message : String)
  deriving DecidableEq, Repr

/-- The status of a program that ends there. -/
def End.status : End → Nat
  | help => 0
  | misuse _ _ => 2

/-- The complaint about a command line; asking for help is no reason for one. -/
def End.complaint : End → String
  | help => ""
  | misuse program message => program ++ ": error: " ++ message

/-- What follows the spelling of an option in the same word. -/
inductive Attached where
  | nothing
  /-- A value behind an equals sign. -/
  | value (text : String)
  /-- Further characters right behind a short spelling. -/
  | characters (rest : List Char)
  deriving DecidableEq, Repr

/-- What a word is. -/
inductive Role (κ : Type) where
  | operand
  | option (option : Option_ κ) (attached : Attached)
  | unknown
  deriving DecidableEq, Repr

variable {κ : Type}

/-! ## Classifying words -/

/-- The option with a spelling. -/
def optionSpelled? (options : List (Option_ κ)) (spelling : String) : Option (Option_ κ) :=
  options.find? fun option => option.spellings.contains spelling

/-- Does a text begin with another? -/
def beginsWith (text beginning : String) : Bool :=
  beginning.toList.isPrefixOf text.toList

/-- A word cut at its first equals sign.  Behind a short spelling the sign makes no difference,
unless nothing follows it. -/
def cutAtEquals (word : String) : String × Attached :=
  let name := word.toList.takeWhile (· ≠ '=')
  match word.toList.drop name.length with
  | _ :: value =>
    let isShort := !beginsWith word "--" && !value.isEmpty
    (String.ofList name, if isShort then .characters value else .value (String.ofList value))
  | [] => (word, .nothing)

/-- All spellings with their options, in order. -/
def allSpellings (options : List (Option_ κ)) : List (Option_ κ × String) :=
  options.flatMap fun option => option.spellings.map fun spelling => (option, spelling)

/-- The options that a word may abbreviate, with the full spelling. -/
def abbreviated (options : List (Option_ κ)) (word : String) :
    List (Option_ κ × String × Attached) :=
  if beginsWith word "--" then
    let (name, attached) := cutAtEquals word
    (allSpellings options).filterMap fun (option, spelling) =>
      if beginsWith spelling name then some (option, spelling, attached) else none
  else
    let short := String.ofList (word.toList.take 2)
    (allSpellings options).filterMap fun (option, spelling) =>
      if spelling = short then some (option, spelling, .characters (word.toList.drop 2))
      else if beginsWith spelling word then some (option, spelling, .nothing)
      else none

/-- Is the word a negative number? -/
def isNegativeNumber (word : String) : Bool :=
  match word.toList with
  | '-' :: digits =>
    let isDigit (c : Char) : Bool := (digitValue? c).isSome
    let whole := digits.takeWhile isDigit
    match digits.drop whole.length with
    | [] => !whole.isEmpty
    | '.' :: places => !places.isEmpty && places.all isDigit
    | _ => false
  | _ => false

/-- The message about an ambiguous word. -/
def ambiguousMessage (word : String) (spellings : List String) : String :=
  "ambiguous option: " ++ word ++ " could match " ++ joinText ", " spellings

/-- The role of a word that begins with a dash and is no spelling of an option. -/
def classifyDashed (program : String) (options : List (Option_ κ)) (word : String) :
    Except End (Role κ) :=
  match abbreviated options word with
  | [(option, _, attached)] => .ok (.option option attached)
  | [] =>
    if isNegativeNumber word || word.toList.contains ' ' then .ok .operand else .ok .unknown
  | several => .error (.misuse program (ambiguousMessage word (several.map (·.2.1))))

/-- The role of a word. -/
def classify (program : String) (options : List (Option_ κ)) (word : String) :
    Except End (Role κ) :=
  if !beginsWith word "-" then .ok .operand
  else
    match optionSpelled? options word with
    | some option => .ok (.option option .nothing)
    | none =>
      if word = "-" then .ok .operand
      else
        let (name, attached) := cutAtEquals word
        match optionSpelled? options name with
        | some option => .ok (.option option attached)
        | none => classifyDashed program options word

/-! ## Reading command lines -/

/-- The spellings of an option as messages show them. -/
def Option_.shown (option : Option_ κ) : String :=
  joinText "/" option.spellings

/-- A misuse of an option. -/
def misuseOf (program : String) (option : Option_ κ) (text : String) : End :=
  .misuse program ("argument " ++ option.shown ++ ": " ++ text)

/-- The message about a value that an option does not take. -/
def ignoredMessage (value : String) : String :=
  "ignored explicit argument " ++ quote value

/-- What one word gives: options with their values, and perhaps an option that waits for the next
word as its value. -/
structure Group (κ : Type) where
  given : List (Option_ κ × Option String) := []
  waiting : Option (Option_ κ) := none
  deriving Repr

/-- A group with an option before it. -/
def Group.after (option : Option_ κ) (group : Group κ) : Group κ :=
  { group with given := (option, none) :: group.given }

/-- An option that ends its word. -/
def groupOfOption (option : Option_ κ) : Group κ :=
  if option.takesValue then { waiting := some option } else { given := [(option, none)] }

/-- An option with a value behind an equals sign. -/
def groupOfValue (program : String) (option : Option_ κ) (value : String) :
    Except End (Group κ) :=
  if option.takesValue then .ok { given := [(option, some value)] }
  else .error (misuseOf program option (ignoredMessage value))

/-- An option with further characters right behind its short spelling.  They are the value if the
option takes one; otherwise each must be the short spelling of another option. -/
def groupOfCharacters (program : String) (options : List (Option_ κ)) (option : Option_ κ) :
    List Char → Except End (Group κ)
  | [] => .ok (groupOfOption option)
  | c :: rest =>
    if option.takesValue then .ok { given := [(option, some (String.ofList (c :: rest)))] }
    else
      match optionSpelled? options (String.ofList ['-', c]) with
      | none => .error (misuseOf program option (ignoredMessage (String.ofList (c :: rest))))
      | some next => do
        let group ← groupOfCharacters program options next rest
        return group.after option

/-- An option with what is attached to it. -/
def groupOf (program : String) (options : List (Option_ κ)) (option : Option_ κ) :
    Attached → Except End (Group κ)
  | .nothing => .ok (groupOfOption option)
  | .value text => groupOfValue program option text
  | .characters rest => groupOfCharacters program options option rest

/-- What was read: the options with their values, the words from the first operand on, if one is
asked for, and the words that are left over. -/
structure Words (κ : Type) where
  given : List (κ × Option String) := []
  operands : List String := []
  left : List String := []
  deriving Repr

/-- The words with what a group gives before them. -/
def Words.give (words : Words κ) (group : Group κ) : Words κ :=
  { words with
    given := group.given.map (fun (option, value) => (option.key, value)) ++ words.given }

/-- The words with one left over before them. -/
def Words.leave (words : Words κ) (word : String) : Words κ :=
  { words with left := word :: words.left }

/-- Read classified words.  If operands are asked for, the first one and everything after it are
the operands. -/
def readClassified (program : String) (options : List (Option_ κ)) (asksOperands : Bool) :
    List (String × Role κ) → Except End (Words κ)
  | [] => .ok {}
  | (word, .unknown) :: rest => do
    let more ← readClassified program options asksOperands rest
    return more.leave word
  | (word, .operand) :: rest =>
    if asksOperands then .ok { operands := word :: rest.map (·.1) }
    else do
      let more ← readClassified program options asksOperands rest
      return more.leave word
  | (_, .option option attached) :: rest => do
    let group ← groupOf program options option attached
    match group.waiting, rest with
    | none, rest =>
      if group.given.any (·.1.isHelp) then throw .help
      let more ← readClassified program options asksOperands rest
      return more.give group
    | some waiting, (value, .operand) :: rest =>
      if group.given.any (·.1.isHelp) then throw .help
      let more ← readClassified program options asksOperands rest
      return more.give { group with given := group.given ++ [(waiting, some value)] }
    | some waiting, _ => throw (misuseOf program waiting "expected one argument")

/-- Read the words of a command line. -/
def readWords (program : String) (options : List (Option_ κ)) (asksOperands : Bool)
    (words : List String) : Except End (Words κ) := do
  let classified ← words.mapM fun word => do
    let role ← classify program options word
    return (word, role)
  readClassified program options asksOperands classified

end WasmCoverage.CommandLine
