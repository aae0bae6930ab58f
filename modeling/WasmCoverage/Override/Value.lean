import WasmCoverage.Override.Function
import WasmCoverage.Override.Lexeme

/-!
# Override values

The value of an override is a number, a truth value, nothing, a text with or without quotes, a
list in square brackets, a record in braces, or a function applied to values.  A run of lexemes
without quotes is one text; a single one may be a number, a truth value or nothing.  The keys of
a record stand without quotes.  Values with commas between them are a choice.

A text is either malformed, or it holds a numeral that is too long.
-/

namespace WasmCoverage.Override

open WasmCoverage.Lexeme

/-- Why a text is no override. -/
inductive Fault where
  | malformed
  /-- A numeral in it has no value. -/
  | numeral (fault : NumeralFault)
  deriving DecidableEq, Repr

/-! ## Texts -/

/-- Is a run of lexemes with this kind in it a text? -/
def Kind.isPlain : Kind → Bool
  | .word | .nothing | .integer | .real | .truth | .reference | .symbol | .colon | .escape
  | .blank => true
  | _ => false

/-- Is a run of lexemes with this kind in it a key? -/
def Kind.isKey (kind : Kind) : Bool :=
  kind.isPlain && kind ≠ .colon && kind ≠ .reference

/-- The text between quotes.  Backslashes before a quote or at the end are written twice; all
others stand for themselves.  `pending` is the number of backslashes just read. -/
def unquoteFrom (quote : Char) (pending : Nat) : List Char → List Char
  | [] => List.replicate (pending / 2) '\\'
  | c :: rest =>
    if c = '\\' then unquoteFrom quote (pending + 1) rest
    else
      let kept := if c = quote then pending / 2 else pending
      List.replicate kept '\\' ++ c :: unquoteFrom quote 0 rest

/-- The text of a quoted lexeme. -/
def unquote (lexeme : List Char) : String :=
  match lexeme with
  | quote :: rest => String.ofList (unquoteFrom quote 0 rest.dropLast)
  | [] => ""

/-- The plain text of a lexeme. -/
def Lexeme.plain (lexeme : Lexeme) : List Char :=
  if lexeme.kind = .escape then unescape lexeme.text else lexeme.text

/-- A result, or the fault of a malformed text. -/
def orMalformed {α : Type} : Option α → Except Fault α
  | some result => .ok result
  | none => .error .malformed

/-- The value of a lexeme that stands alone. -/
def Lexeme.alone (lexeme : Lexeme) : Except Fault Operand :=
  let text := String.ofList lexeme.text
  match lexeme.kind with
  | .nothing => .ok .null
  | .integer => ((Numeral.read text).map .integer).mapError .numeral
  | .real => orMalformed ((Numeral.real? text).map .real)
  | .truth => .ok (.bool (text.toLower = "true"))
  | _ => .ok (.text (String.ofList lexeme.plain))

/-- Lexemes without a blank at the start. -/
def dropBlank : List Lexeme → List Lexeme
  | first :: rest => if first.kind = .blank then rest else first :: rest
  | [] => []

/-- The value of a run of lexemes without quotes. -/
def runValue (run : List Lexeme) : Except Fault Operand :=
  match (dropBlank (dropBlank run).reverse).reverse with
  | [] => .error .malformed
  | [single] => single.alone
  | several => .ok (.text (String.ofList (several.flatMap Lexeme.plain)))

/-- The key that an operand without quotes stands for. -/
def keyOf : Operand → Key
  | .null => .null
  | .bool b => .bool b
  | .integer n => .integer n
  | .real x => .real x
  | .text s => .text s
  | _ => .text ""

/-! ## Values -/

/-- A value without quotes and what follows it. -/
def readRun (lexemes : List Lexeme) : Except Fault (Operand × List Lexeme) := do
  let run := lexemes.takeWhile (·.kind.isPlain)
  let value ← runValue run
  return (value, lexemes.drop run.length)

/-- A key and what follows its colon. -/
def readKey (lexemes : List Lexeme) : Except Fault (Key × List Lexeme) := do
  let run := lexemes.takeWhile (·.kind.isKey)
  let key ← runValue run
  match lexemes.drop run.length with
  | colon :: rest => if colon.kind = .colon then return (keyOf key, rest) else throw .malformed
  | [] => throw .malformed

/-- The name of an argument, if it has one, and what follows. -/
def argumentName (lexemes : List Lexeme) : Option String × List Lexeme :=
  match lexemes with
  | first :: second :: rest =>
    if first.kind = .word && second.kind = .equals then
      (some (String.ofList first.text), rest)
    else (none, lexemes)
  | lexemes => (none, lexemes)

mutual

/-- One value and what follows it. -/
def readOperand : Nat → List Lexeme → Except Fault (Operand × List Lexeme)
  | 0, _ => throw .malformed
  | _ + 1, [] => throw .malformed
  | fuel + 1, first :: rest =>
    match first.kind with
    | .bracketOpen => do
      let (items, rest) ← readItems fuel rest
      return (.list items, rest)
    | .braceOpen => do
      let (entries, rest) ← readEntries fuel rest
      let kept := entries.foldl (fun done entry => Key.insert entry.1 entry.2 done) []
      return (.record kept, rest)
    | .quoted => return (.quoted (first.text.headD '\'') (unquote first.text), rest)
    | .word =>
      match rest with
      | second :: rest' =>
        if second.kind = .parenthesisOpen then do
          let (found, rest) ← readArguments fuel rest'
          let result ← orMalformed (resultOf? (String.ofList first.text) found)
          return (result, rest)
        else readRun (first :: rest)
      | [] => readRun [first]
    | _ => readRun (first :: rest)

/-- The items up to a closing bracket and what follows it. -/
def readItems : Nat → List Lexeme → Except Fault (List Operand × List Lexeme)
  | 0, _ => throw .malformed
  | _ + 1, [] => throw .malformed
  | fuel + 1, first :: rest =>
    if first.kind = .bracketClose then return ([], rest) else readMoreItems fuel (first :: rest)

/-- At least one item and what follows the closing bracket. -/
def readMoreItems : Nat → List Lexeme → Except Fault (List Operand × List Lexeme)
  | 0, _ => throw .malformed
  | fuel + 1, lexemes => do
    let (item, rest) ← readOperand fuel lexemes
    match rest with
    | next :: rest =>
      if next.kind = .bracketClose then return ([item], rest)
      else if next.kind = .comma then
        let (more, rest) ← readMoreItems fuel rest
        return (item :: more, rest)
      else throw .malformed
    | [] => throw .malformed

/-- The entries up to a closing brace and what follows it. -/
def readEntries : Nat → List Lexeme → Except Fault (List (Key × Operand) × List Lexeme)
  | 0, _ => throw .malformed
  | _ + 1, [] => throw .malformed
  | fuel + 1, first :: rest =>
    if first.kind = .braceClose then return ([], rest) else readMoreEntries fuel (first :: rest)

/-- At least one entry and what follows the closing brace. -/
def readMoreEntries : Nat → List Lexeme → Except Fault (List (Key × Operand) × List Lexeme)
  | 0, _ => throw .malformed
  | fuel + 1, lexemes => do
    let (key, rest) ← readKey lexemes
    let (item, rest) ← readOperand fuel rest
    match rest with
    | next :: rest =>
      if next.kind = .braceClose then return ([(key, item)], rest)
      else if next.kind = .comma then
        let (more, rest) ← readMoreEntries fuel rest
        return ((key, item) :: more, rest)
      else throw .malformed
    | [] => throw .malformed

/-- The arguments up to a closing parenthesis and what follows it. -/
def readArguments : Nat → List Lexeme → Except Fault (List Argument × List Lexeme)
  | 0, _ => throw .malformed
  | _ + 1, [] => throw .malformed
  | fuel + 1, first :: rest =>
    if first.kind = .parenthesisClose then return ([], rest)
    else readMoreArguments fuel (first :: rest)

/-- At least one argument and what follows the closing parenthesis. -/
def readMoreArguments : Nat → List Lexeme → Except Fault (List Argument × List Lexeme)
  | 0, _ => throw .malformed
  | fuel + 1, lexemes => do
    let (name, lexemes) := argumentName lexemes
    let (item, rest) ← readOperand fuel lexemes
    match rest with
    | next :: rest =>
      if next.kind = .parenthesisClose then return ([⟨name, item⟩], rest)
      else if next.kind = .comma then
        let (more, rest) ← readMoreArguments fuel rest
        return (⟨name, item⟩ :: more, rest)
      else throw .malformed
    | [] => throw .malformed

end

/-- Operands with commas between them, at least one. -/
def readAlternatives : Nat → List Lexeme → Except Fault (List Operand)
  | 0, _ => throw .malformed
  | fuel + 1, lexemes => do
    let (first, rest) ← readOperand (2 * lexemes.length + 2) lexemes
    match rest with
    | [] => return [first]
    | next :: rest =>
      if next.kind = .comma then
        let more ← readAlternatives fuel rest
        return first :: more
      else throw .malformed

/-- One operand as it is, and several as a choice. -/
def choiceOf : List Operand → Operand
  | [single] => single
  | items => .choice true items

/-- What a text stands for as the value of an override.  Nothing written is the empty text. -/
def readValue (text : List Char) : Except Fault Operand :=
  match text.dropWhile isBlank with
  | [] => .ok (.text "")
  | body => do
    let lexemes ← orMalformed (lexemes? body)
    let operands ← readAlternatives (lexemes.length + 1) lexemes
    return choiceOf operands

end WasmCoverage.Override
