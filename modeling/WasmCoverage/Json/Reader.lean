import WasmCoverage.Json.Basic
import WasmCoverage.Number.Numeral
import WasmCoverage.Text.Hex

/-!
# Reading JSON

A text is read to the end, or the reading stops at a defect.  The defect is reported with the
line, column and offset of the character it was noticed at.

Three liberties are taken with the standard: `NaN` and the infinities are numbers, a key may be
repeated (the last value counts), and a half of a surrogate pair may stand alone.  Two limits are
set: a whole number has at most `digitLimit` digits, and values nest no deeper than the reader is
allowed to go, which depends on who calls it.

A reading function takes the characters still to be read and returns a value and the rest.  A
defect keeps the characters from its place on; their number gives the offset.
-/

namespace WasmCoverage.Json

open WasmCoverage.Text

/-! ## Faults -/

/-- What can be wrong with a text that should be JSON. -/
inductive Defect where
  | byteOrderMark
  | noValue
  | noKey
  | noColon
  | noComma
  | extraData
  | controlCharacter
  | unterminated
  | badEscape
  | badCodeEscape
  deriving DecidableEq, Repr

/-- The wording of a defect. -/
def Defect.message : Defect → String
  | byteOrderMark => "Unexpected UTF-8 BOM (decode using utf-8-sig)"
  | noValue => "Expecting value"
  | noKey => "Expecting property name enclosed in double quotes"
  | noColon => "Expecting ':' delimiter"
  | noComma => "Expecting ',' delimiter"
  | extraData => "Extra data"
  | controlCharacter => "Invalid control character at"
  | unterminated => "Unterminated string starting at"
  | badEscape => "Invalid \\escape"
  | badCodeEscape => "Invalid \\uXXXX escape"

/-- Why reading stopped, with the characters that were left. -/
inductive Stop where
  | defect (kind : Defect) (left : List Char)
  | numeral (fault : NumeralFault)
  | tooDeep
  deriving DecidableEq, Repr

/-- A place in a text: the 1-based line and column, and the offset. -/
structure Place where
  line : Nat
  column : Nat
  offset : Nat
  deriving DecidableEq, Repr

/-- The place after some characters. -/
def placeAfter (before : List Char) : Place :=
  ⟨before.count '\n' + 1, (before.reverse.takeWhile (· ≠ '\n')).length + 1, before.length⟩

/-- Why a text could not be read. -/
inductive Fault where
  | defect (kind : Defect) (place : Place)
  | numeral (fault : NumeralFault)
  | tooDeep
  deriving DecidableEq, Repr

/-- The wording of a fault. -/
def Fault.message : Fault → String
  | defect kind place =>
    kind.message ++ ": line " ++ toString place.line ++ " column " ++ toString place.column ++
      " (char " ++ toString place.offset ++ ")"
  | numeral fault => fault.message
  | tooDeep => "maximum recursion depth exceeded while decoding a JSON array from a unicode string"

/-! ## Blanks -/

/-- The characters that may stand between tokens. -/
def isSpace (c : Char) : Bool :=
  c = ' ' || c = '\t' || c = '\n' || c = '\r'

/-- The text without the spaces at its start. -/
def skip (text : List Char) : List Char :=
  text.dropWhile isSpace

/-! ## Strings -/

/-- The character that a one-letter escape stands for. -/
def escaped? : Char → Option Char
  | '"' => some '"'
  | '\\' => some '\\'
  | '/' => some '/'
  | 'b' => some '\x08'
  | 'f' => some '\x0c'
  | 'n' => some '\n'
  | 'r' => some '\r'
  | 't' => some '\t'
  | _ => none

/-- Is the code unit the first half of a pair? -/
def isHighHalf (unit : Nat) : Bool :=
  0xD800 ≤ unit && unit ≤ 0xDBFF

/-- Is the code unit the second half of a pair? -/
def isLowHalf (unit : Nat) : Bool :=
  0xDC00 ≤ unit && unit ≤ 0xDFFF

/-- The point of a code unit. -/
def ofUnit (unit : Nat) : Point :=
  if isHighHalf unit || isLowHalf unit then .half (Fin.ofNat 0x800 (unit - Half.base))
  else .char (Char.ofNat unit)

/-- The character of a pair of halves. -/
def ofHalves (high low : Nat) : Point :=
  .char (Char.ofNat (0x10000 + (high - 0xD800) * 0x400 + (low - 0xDC00)))

/-- The code unit written in the four characters after `u`.  A string goes on after them, so a
fifth character must be there. -/
def readUnit (text : List Char) : Except Stop (Nat × List Char) :=
  match text with
  | a :: b :: c :: d :: next :: rest =>
    match hexNumber? [a, b, c, d] with
    | some unit => .ok (unit, next :: rest)
    | none => .error (.defect .badCodeEscape ('u' :: text))
  | _ => .error (.defect .badCodeEscape ('u' :: text))

/-- The point of the escape whose backslash has been read. -/
def readEscape (opening : List Char) : List Char → Except Stop (Point × List Char)
  | [] => .error (.defect .unterminated opening)
  | 'u' :: rest => do
    let (unit, rest) ← readUnit rest
    if isHighHalf unit then
      match rest with
      | '\\' :: 'u' :: a :: b :: c :: d :: next :: more => do
        let (low, after) ← readUnit (a :: b :: c :: d :: next :: more)
        if isLowHalf low then return (ofHalves unit low, after)
        return (ofUnit unit, rest)
      | _ => return (ofUnit unit, rest)
    return (ofUnit unit, rest)
  | c :: rest =>
    match escaped? c with
    | some e => .ok (.char e, rest)
    | none => .error (.defect .badEscape ('\\' :: c :: rest))

/-- The points of the string whose opening quote has been read; `opening` is the text from that
quote on. -/
def readString (opening : List Char) : Nat → List Char → Except Stop (List Point × List Char)
  | 0, _ => .error (.defect .unterminated opening)
  | _, [] => .error (.defect .unterminated opening)
  | fuel + 1, c :: rest =>
    if c = '"' then .ok ([], rest)
    else if c = '\\' then do
      let (e, rest) ← readEscape opening rest
      let (points, rest) ← readString opening fuel rest
      return (e :: points, rest)
    else if c.toNat < 0x20 then .error (.defect .controlCharacter (c :: rest))
    else do
      let (points, rest) ← readString opening fuel rest
      return (.char c :: points, rest)

/-! ## Numbers -/

/-- The value of a row of ASCII digits. -/
def valueOfDigits (digits : List Char) : Nat :=
  Numeral.value (digits.map fun c => c.toNat - 48)

/-- Is there a fraction at the start?  Then its digits, and the rest. -/
def fraction? : List Char → Option (List Char × List Char)
  | '.' :: c :: rest =>
    if c.isDigit then some (c :: rest.takeWhile Char.isDigit, rest.dropWhile Char.isDigit)
    else none
  | _ => none

/-- Is there an exponent at the start?  Then its value, and the rest. -/
def exponent? : List Char → Option (Int × List Char)
  | e :: rest =>
    if e = 'e' ∨ e = 'E' then
      let (negative, unsigned) := match rest with
        | '-' :: rest => (true, rest)
        | '+' :: rest => (false, rest)
        | rest => (false, rest)
      let digits := unsigned.takeWhile Char.isDigit
      if digits = [] then none
      else
        let size := valueOfDigits digits
        some (if negative then Int.negOfNat size else size, unsigned.dropWhile Char.isDigit)
    else none
  | [] => none

/-- The digits before the point: one zero, or a run that does not begin with one. -/
def wholeDigits? : List Char → Option (List Char × List Char)
  | [] => none
  | c :: rest =>
    if c = '0' then some (['0'], rest)
    else if c.isDigit then some (c :: rest.takeWhile Char.isDigit, rest.dropWhile Char.isDigit)
    else none

/-- The number at the start. -/
def readNumber (text : List Char) : Except Stop (Json × List Char) :=
  let (negative, unsigned) := match text with
    | '-' :: rest => (true, rest)
    | rest => (false, rest)
  match wholeDigits? unsigned with
  | none => .error (.defect .noValue text)
  | some (whole, rest) =>
    let fraction := fraction? rest
    let (places, rest) := fraction.getD ([], rest)
    let exponent := exponent? rest
    let (power, rest) := exponent.getD (0, rest)
    if fraction.isNone && exponent.isNone then
      if whole.length > digitLimit then .error (.numeral (.tooLong whole.length))
      else
        let size := valueOfDigits whole
        .ok (.integer (if negative then Int.negOfNat size else size), rest)
    else
      .ok (.real (.ofDecimal negative (valueOfDigits (whole ++ places)) (power - places.length)),
        rest)

/-! ## Values -/

/-- The words that stand for values. -/
def literals : List (List Char × Json) :=
  [("null".toList, .null), ("true".toList, .bool true), ("false".toList, .bool false),
   ("NaN".toList, .real .nan), ("Infinity".toList, .real (.infinite false)),
   ("-Infinity".toList, .real (.infinite true))]

/-- The word at the start, if it stands for a value. -/
def literal? (text : List Char) : Option (Json × List Char) :=
  (literals.find? fun entry => entry.1.isPrefixOf text).map fun entry =>
    (entry.2, text.drop entry.1.length)

mutual

/-- The value at the start; `room` is how deep it may nest. -/
def readValue : Nat → Nat → List Char → Except Stop (Json × List Char)
  | 0, _, source => .error (.defect .noValue source)
  | _, _, [] => .error (.defect .noValue [])
  | fuel + 1, room, c :: rest =>
    if c = '"' then do
      let (points, rest) ← readString (c :: rest) fuel rest
      return (.text ⟨points⟩, rest)
    else if c = '{' then
      match room with
      | 0 => .error .tooDeep
      | room + 1 => do
        match skip rest with
        | '}' :: rest => return (.record [], rest)
        | rest =>
          let (entries, rest) ← readEntries fuel room rest
          return (.record (Table.ofList entries), rest)
    else if c = '[' then
      match room with
      | 0 => .error .tooDeep
      | room + 1 => do
        match skip rest with
        | ']' :: rest => return (.list [], rest)
        | rest =>
          let (items, rest) ← readItems fuel room rest
          return (.list items, rest)
    else
      match literal? (c :: rest) with
      | some found => .ok found
      | none => readNumber (c :: rest)

/-- The entries up to the closing brace, of which there is at least one. -/
def readEntries : Nat → Nat → List Char → Except Stop (List (Key × Json) × List Char)
  | 0, _, source => .error (.defect .noKey source)
  | fuel + 1, room, source =>
    match source with
    | '"' :: rest => do
      let (key, rest) ← readString source fuel rest
      match skip rest with
      | ':' :: rest => do
        let (value, rest) ← readValue fuel room (skip rest)
        match skip rest with
        | '}' :: rest => return ([(.text ⟨key⟩, value)], rest)
        | ',' :: rest => do
          let (entries, rest) ← readEntries fuel room (skip rest)
          return ((.text ⟨key⟩, value) :: entries, rest)
        | rest => .error (.defect .noComma rest)
      | rest => .error (.defect .noColon rest)
    | _ => .error (.defect .noKey source)

/-- The items up to the closing bracket, of which there is at least one. -/
def readItems : Nat → Nat → List Char → Except Stop (List Json × List Char)
  | 0, _, source => .error (.defect .noValue source)
  | fuel + 1, room, source => do
    let (item, rest) ← readValue fuel room source
    match skip rest with
    | ']' :: rest => return ([item], rest)
    | ',' :: rest => do
      let (items, rest) ← readItems fuel room (skip rest)
      return (item :: items, rest)
    | rest => .error (.defect .noComma rest)

end

/-- The value that a whole text spells, or where reading stopped; it may nest as deep as `depth`. -/
def readAll (depth : Nat) (text : List Char) : Except Stop Json := do
  if text.head? = some '\uFEFF' then throw (.defect .byteOrderMark text)
  let (value, rest) ← readValue (2 * text.length + 2) depth (skip text)
  match skip rest with
  | [] => return value
  | rest => throw (.defect .extraData rest)

/-- What is wrong with a text, and at which place. -/
def Stop.locate (text : List Char) : Stop → Fault
  | defect kind left => .defect kind (placeAfter (text.take (text.length - left.length)))
  | numeral fault => .numeral fault
  | tooDeep => .tooDeep

/-- The value that a text spells, if it nests no deeper than `depth`. -/
def read (depth : Nat) (text : List Char) : Except Fault Json :=
  (readAll depth text).mapError (Stop.locate text)

end WasmCoverage.Json
