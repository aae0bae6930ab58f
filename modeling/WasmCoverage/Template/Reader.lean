import WasmCoverage.Lexeme
import WasmCoverage.Number.Numeral
import WasmCoverage.Template.Syntax

/-!
# Reading texts with references

`${build.marker}` is the setting at that way from the root; keys stand between dots or in
brackets.  `${source:arguments}` is a question to a source, with commas between the arguments.  A
backslash before `${` makes it plain text, and is itself written twice there; elsewhere a
backslash is plain.

Arguments are cut into lexemes.  An argument may be a text in quotes, a list in brackets, a
record in braces, or a run of words, numbers, symbols and references.  An argument that is left
out is the empty text.

Main statement: `read?_of_not_mem`, a text without a dollar sign is a plain text.
-/

namespace WasmCoverage.Template

open WasmCoverage.Lexeme

/-! ## Ways and names -/

/-- The characters with a meaning of their own in a way. -/
def marks : List Char :=
  ['\\', '\x7b', '\x7d', '(', ')', '[', ']', ':', '.', ' ', '\t', '\'', '"']

/-- May the character stand in a key? -/
def isKeyChar (c : Char) : Bool :=
  !(marks.contains c)

/-- A part of what stands between the braces of a reference. -/
inductive Token where
  | dot
  | opening
  | closing
  | key (name : List Char)
  | inner (piece : Piece)

/-- A token as a piece. -/
def Token.piece : Token → Piece
  | dot => .text "."
  | opening => .text "["
  | closing => .text "]"
  | key name => .text (String.ofList name)
  | inner piece => piece

/-- A key, or a reference in the place of one. -/
def Token.isKey : Token → Bool
  | key _ | inner _ => true
  | _ => false

/-- Letters, digits, low lines and dashes, not beginning with a digit or a dash. -/
def isName (name : List Char) : Bool :=
  match name with
  | [] => false
  | c :: rest => beginsName c && rest.all fun d => isNameChar d || d = '-'

/-- A name, or a reference in the place of one. -/
def Token.isName : Token → Bool
  | key name => Template.isName name
  | inner _ => true
  | _ => false

/-- Are these the steps after the first of a way? -/
def areSteps : List Token → Bool
  | [] => true
  | .dot :: key :: rest => key.isKey && areSteps rest
  | .opening :: key :: .closing :: rest => key.isKey && areSteps rest
  | _ => false

/-- Is this a way: perhaps dots, and at least one key? -/
def isWay : List Token → Bool
  | .dot :: rest => isWay rest
  | .opening :: key :: .closing :: rest => key.isKey && areSteps rest
  | key :: rest => key.isKey && areSteps rest
  | [] => false

/-- Is this the name of a source: names with dots between them? -/
def isSource : List Token → Bool
  | [name] => name.isName
  | name :: .dot :: rest => name.isName && isSource rest
  | _ => false

/-! ## Lexemes of arguments -/

/-- The kinds of lexemes. -/
inductive Kind where
  | reference
  | braceOpen
  | braceClose
  | quote
  | comma
  | bracketOpen
  | bracketClose
  | colon
  | real
  | integer
  | truth
  | nothing
  | symbol
  | word
  | escape
  | blank
  deriving DecidableEq, Repr

/-- The start of a reference. -/
def referenceLength : List Char → Nat
  | '$' :: '\x7b' :: rest => 2 + blankLength rest
  | _ => 0

/-- A quote. -/
def quoteLength : List Char → Nat
  | c :: _ => if c = '\'' || c = '"' then 1 else 0
  | [] => 0

/-- A word, which may hold dashes. -/
def dashedLength : List Char → Nat
  | c :: rest =>
    if beginsName c then 1 + (rest.takeWhile fun d => isNameChar d || d = '-').length else 0
  | [] => 0

/-- The lexemes of arguments. -/
def rules : Rules Kind :=
  [(.reference, referenceLength),
   (.braceOpen, markLength '\x7b' false true),
   (.braceClose, markLength '\x7d' true false),
   (.quote, quoteLength),
   (.comma, markLength ',' true true),
   (.bracketOpen, markLength '[' false true),
   (.bracketClose, markLength ']' true false),
   (.colon, markLength ':' true true),
   (.real, signed fun chars => max (fractionLength chars) (wordsLength ["inf", "nan"] chars)),
   (.integer, signed naturalLength),
   (.truth, wordsLength ["true", "false"]),
   (.nothing, wordsLength ["null"]),
   (.symbol, fun chars => if chars.head?.any symbols.contains then 1 else 0),
   (.word, dashedLength),
   (.escape, escapeLength),
   (.blank, blankLength)]

/-- The kind and the text of the lexeme at the start, and what follows it. -/
def next? (chars : List Char) : Option (Kind × List Char × List Char) :=
  (longest? rules chars).map fun (kind, length) => (kind, chars.take length, chars.drop length)

/-- May the lexeme stand in a run without quotes? -/
def Kind.isPlain : Kind → Bool
  | .colon | .real | .integer | .truth | .nothing | .symbol | .word | .escape | .blank => true
  | _ => false

/-- May the lexeme stand in a key? -/
def Kind.isKey (kind : Kind) : Bool :=
  kind.isPlain && kind ≠ .colon

/-- A part of a run without quotes. -/
inductive Part where
  | lexeme (kind : Kind) (text : List Char)
  | inner (piece : Piece)

/-- A part as a piece. -/
def Part.piece : Part → Piece
  | lexeme kind text => .text (String.ofList (if kind = .escape then unescape text else text))
  | inner piece => piece

/-- Is the part blank? -/
def Part.isBlank : Part → Bool
  | lexeme .blank _ => true
  | _ => false

/-- The value of a lexeme that stands alone. -/
def valueOf? (kind : Kind) (text : List Char) : Option Json :=
  let s := String.ofList text
  match kind with
  | .nothing => some .null
  | .integer => (Numeral.read s).toOption.map .integer
  | .real => (Numeral.real? s).map .real
  | .truth => some (.bool (s.toLower = "true"))
  | .escape => some (.text (String.ofList (unescape text)))
  | _ => some (.text s)

/-- A run of parts as an argument; blanks at its ends do not count. -/
def argumentOf? (parts : List Part) : Option Argument :=
  let parts := if (parts.head?.map Part.isBlank).getD false then parts.drop 1 else parts
  let parts := if (parts.getLast?.map Part.isBlank).getD false then parts.dropLast else parts
  match parts with
  | [] => none
  | [.lexeme kind text] => some (((valueOf? kind text).map .plain).getD .unreadable)
  | parts => some (.pieces (parts.map Part.piece))

/-- The key that a run of parts stands for. -/
def keyOf? (parts : List Part) : Option Key :=
  match argumentOf? parts with
  | some (.plain (.integer n)) => some (.integer n)
  | some (.plain (.real x)) => some (.real x)
  | some (.plain (.bool b)) => some (.bool b)
  | some (.plain (.text s)) => some (.text s)
  | some (.plain .null) => some .null
  | some (.pieces content) =>
    some (.text (String.join (content.map fun | .text s => s | _ => "")))
  | _ => none

/-! ## Reading -/

mutual

/-- The pieces up to a quote, or up to the end if there is none to come, and what follows. -/
def pieces? (quote : Option Char) : Nat → List Char → Option (List Piece × List Char)
  | 0, _ => none
  | fuel + 1, chars =>
    let slashes := chars.takeWhile (· = '\\')
    let kept := slashes.take (slashes.length / 2)
    let isEven := slashes.length % 2 = 0
    let more (plain : List Char) (rest : List Char) : Option (List Piece × List Char) :=
      (pieces? quote fuel rest).map fun (pieces, rest) => (prepend plain pieces, rest)
    match chars.drop slashes.length with
    | [] => if quote.isNone then some (prepend slashes [], []) else none
    | '$' :: '\x7b' :: rest =>
      if isEven then do
        let (piece, rest) ← opened? fuel rest
        let (pieces, rest) ← pieces? quote fuel rest
        return (prepend kept (piece :: pieces), rest)
      else more (kept ++ ['$', '\x7b']) rest
    | c :: rest =>
      if quote = some c then
        if isEven then some (prepend kept [], rest) else more (kept ++ [c]) rest
      else more (slashes ++ [c]) rest

/-- What is opened by `${`, and what follows the brace that closes it. -/
def opened? : Nat → List Char → Option (Piece × List Char)
  | 0, _ => none
  | fuel + 1, chars => do
    let (tokens, rest) ← tokens? fuel (chars.dropWhile isBlank)
    match rest.dropWhile isBlank with
    | '\x7d' :: rest =>
      if isWay tokens then return (.setting (tokens.map Token.piece), rest) else none
    | ':' :: rest =>
      if isSource tokens then
        let (arguments, rest) ← sequence? .braceClose fuel (rest.dropWhile isBlank)
        return (.question (tokens.map Token.piece) arguments, rest)
      else none
    | _ => none

/-- The tokens of a way or a name and what follows them. -/
def tokens? : Nat → List Char → Option (List Token × List Char)
  | 0, _ => none
  | fuel + 1, '$' :: '\x7b' :: rest => do
    let (piece, rest) ← opened? fuel rest
    let (tokens, rest) ← tokens? fuel rest
    return (.inner piece :: tokens, rest)
  | fuel + 1, chars =>
    let name := chars.takeWhile isKeyChar
    let more (token : Token) (rest : List Char) : Option (List Token × List Char) :=
      (tokens? fuel rest).map fun (tokens, rest) => (token :: tokens, rest)
    match chars with
    | '.' :: rest => more .dot rest
    | '[' :: rest => more .opening rest
    | ']' :: rest => more .closing rest
    | chars =>
      if name.isEmpty then some ([], chars) else more (.key name) (chars.drop name.length)

/-- The arguments up to a closing lexeme and what follows it. -/
def sequence? (closing : Kind) : Nat → List Char → Option (List Argument × List Char)
  | 0, _ => none
  | fuel + 1, chars => do
    let (kind, _, rest) ← next? chars
    if kind = closing then return ([], rest) else slots? closing fuel chars

/-- At least one argument, which may be left out, and what follows the closing lexeme. -/
def slots? (closing : Kind) : Nat → List Char → Option (List Argument × List Char)
  | 0, _ => none
  | fuel + 1, chars => do
    let (kind, _, _) ← next? chars
    let (first, rest) ←
      if kind = .comma || kind = closing then some (.plain (.text ""), chars)
      else argument? fuel chars
    let (kind, _, rest) ← next? rest
    if kind = closing then return ([first], rest)
    else if kind = .comma then
      let (more, rest) ← slots? closing fuel rest
      return (first :: more, rest)
    else none

/-- An argument and what follows it. -/
def argument? : Nat → List Char → Option (Argument × List Char)
  | 0, _ => none
  | fuel + 1, chars => do
    let (kind, text, rest) ← next? chars
    match kind with
    | .quote =>
      let (content, rest) ← pieces? text.head? fuel rest
      return (.quoted content, rest)
    | .bracketOpen =>
      let (items, rest) ← sequence? .bracketClose fuel rest
      return (.list items, rest)
    | .braceOpen =>
      let (kind, _, closed) ← next? rest
      if kind = .braceClose then return (.record [], closed)
      let (entries, rest) ← entries? fuel rest
      return (.record (Table.ofList entries), rest)
    | _ =>
      let (parts, rest) ← run? fuel chars
      let argument ← argumentOf? parts
      return (argument, rest)

/-- The parts of a run without quotes and what follows it. -/
def run? : Nat → List Char → Option (List Part × List Char)
  | 0, _ => none
  | fuel + 1, chars =>
    match next? chars with
    | none => if chars.isEmpty then some ([], []) else none
    | some (kind, text, rest) =>
      if kind = .reference then do
        let (piece, rest) ← opened? fuel rest
        let (parts, rest) ← run? fuel rest
        return (.inner piece :: parts, rest)
      else if kind.isPlain then do
        let (parts, rest) ← run? fuel rest
        return (.lexeme kind text :: parts, rest)
      else some ([], chars)

/-- The parts of a key and what follows its colon. -/
def key? : Nat → List Char → Option (List Part × List Char)
  | 0, _ => none
  | fuel + 1, chars => do
    let (kind, text, rest) ← next? chars
    if kind = .colon then return ([], rest)
    else if kind.isKey then
      let (parts, rest) ← key? fuel rest
      return (.lexeme kind text :: parts, rest)
    else none

/-- At least one entry of a record and what follows the closing brace. -/
def entries? : Nat → List Char → Option (List (Key × Argument) × List Char)
  | 0, _ => none
  | fuel + 1, chars => do
    let (parts, rest) ← key? fuel chars
    let key ← keyOf? parts
    let (argument, rest) ← argument? fuel rest
    let (kind, _, rest) ← next? rest
    if kind = .braceClose then return ([(key, argument)], rest)
    else if kind = .comma then
      let (more, rest) ← entries? fuel rest
      return ((key, argument) :: more, rest)
    else none

end

/-- Fuel that suffices to read a text. -/
def fuelFor (chars : List Char) : Nat :=
  4 * chars.length + 8

/-- The pieces of a text, if all its references are well formed. -/
def read? (text : String) : Option (List Piece) :=
  let chars := text.toList
  if mentions chars then (pieces? none (fuelFor chars) chars).map (·.1) else some [.text text]

/-- The argument that a whole text spells. -/
def readArgument? (text : String) : Option Argument :=
  match argument? (fuelFor text.toList) text.toList with
  | some (argument, []) => some argument
  | _ => none

/-- **A text without a dollar sign is a plain text.** -/
theorem read?_of_not_mem {text : String} (h : '$' ∉ text.toList) :
    read? text = some [.text text] := by
  simp [read?, mentions_of_not_mem h]

end WasmCoverage.Template
