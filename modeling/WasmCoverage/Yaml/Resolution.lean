/-!
# What an unquoted YAML scalar stands for

A scalar without quotes is a text only if it does not look like something else: a truth value,
nothing, a number (also with an underscore, in base two, eight or sixteen, or in sixties), a date,
a merge key or one of a few lone signs.  `isOther` recognises all of these.
-/

namespace WasmCoverage.Yaml

/-- The words that are not texts. -/
def reservedWords : List String :=
  ["yes", "Yes", "YES", "no", "No", "NO", "true", "True", "TRUE", "false", "False", "FALSE",
   "on", "On", "ON", "off", "Off", "OFF", "~", "null", "Null", "NULL", "", "<<", "=", "!", "&",
   "*"]

/-- Is the character a digit or an underscore? -/
def isDigitOrGap (c : Char) : Bool :=
  c.isDigit || c = '_'

/-- The text without a sign at its start. -/
def unsigned : List Char → List Char
  | '-' :: rest => rest
  | '+' :: rest => rest
  | rest => rest

/-- Is the text one or more places in sixties, each after a colon?  Then what follows them. -/
def sixties? : List Char → Option (List Char)
  | ':' :: a :: b :: rest =>
    if b.isDigit then
      if '0' ≤ a && a ≤ '5' then some ((sixties? rest).getD rest) else none
    else if a.isDigit then some ((sixties? (b :: rest)).getD (b :: rest)) else none
  | [':', a] => if a.isDigit then some [] else none
  | _ => none

/-- Does the text begin with a digit other than zero and go on with digits, gaps and then `rest`?
Gives what follows the digits. -/
def afterDigits? (leadingZero : Bool) : List Char → Option (List Char)
  | c :: rest =>
    if c.isDigit && (leadingZero || c ≠ '0') then some (rest.dropWhile isDigitOrGap) else none
  | [] => none

/-- Is the text a whole number? -/
def isInteger (text : List Char) : Bool :=
  match unsigned text with
  | ['0'] => true
  | '0' :: 'b' :: rest => !rest.isEmpty && rest.all fun c => c = '0' || c = '1' || c = '_'
  | '0' :: 'x' :: rest =>
    !rest.isEmpty && rest.all fun c =>
      c.isDigit || ('a' ≤ c && c ≤ 'f') || ('A' ≤ c && c ≤ 'F') || c = '_'
  | '0' :: rest => rest.all fun c => ('0' ≤ c && c ≤ '7') || c = '_'
  | body =>
    match afterDigits? false body with
    | some [] => true
    | some rest => sixties? rest == some []
    | none => false

/-- Is the text nothing, or an exponent with its sign? -/
def isSignedExponent : List Char → Bool
  | [] => true
  | e :: sign :: rest =>
    (e = 'e' || e = 'E') && (sign = '-' || sign = '+') && !rest.isEmpty && rest.all Char.isDigit
  | _ => false

/-- Is the text a number with a fraction? -/
def isFraction (text : List Char) : Bool :=
  match text with
  | '.' :: c :: rest =>
    (c.isDigit && isSignedExponent (rest.dropWhile isDigitOrGap)) ||
      ["nan", "NaN", "NAN"].contains (String.ofList (c :: rest)) ||
      ["inf", "Inf", "INF"].contains (String.ofList (c :: rest))
  | _ =>
    match unsigned text with
    | '.' :: rest => ["inf", "Inf", "INF"].contains (String.ofList rest)
    | body =>
      match afterDigits? true body with
      | some ('.' :: rest) => isSignedExponent (rest.dropWhile isDigitOrGap)
      | some rest =>
        match sixties? rest with
        | some ('.' :: rest) => rest.all isDigitOrGap
        | _ => false
      | none => false

/-- One or two digits at the start, and what follows them. -/
def oneOrTwoDigits? : List Char → Option (List Char)
  | a :: b :: rest =>
    if a.isDigit then some (if b.isDigit then rest else b :: rest) else none
  | [a] => if a.isDigit then some [] else none
  | [] => none

/-- Two digits at the start, and what follows them. -/
def twoDigits? : List Char → Option (List Char)
  | a :: b :: rest => if a.isDigit && b.isDigit then some rest else none
  | _ => none

/-- What follows a character at the start. -/
def after? (c : Char) : List Char → Option (List Char)
  | d :: rest => if c = d then some rest else none
  | [] => none

/-- Is the character a blank or a tab? -/
def isGap (c : Char) : Bool :=
  c = ' ' || c = '\t'

/-- Is the text nothing, or the zone of a time? -/
def isZone (text : List Char) : Bool :=
  match text.dropWhile isGap with
  | [] => text.isEmpty
  | ['Z'] => true
  | sign :: rest =>
    (sign = '-' || sign = '+') &&
      match oneOrTwoDigits? rest with
      | some [] => true
      | some rest => ((after? ':' rest).bind twoDigits?) == some []
      | none => false

/-- Is the text a time of day, perhaps with a zone? -/
def isTime (text : List Char) : Bool :=
  let seconds := do
    let rest ← oneOrTwoDigits? text
    let rest ← after? ':' rest
    let rest ← twoDigits? rest
    let rest ← after? ':' rest
    twoDigits? rest
  match seconds with
  | none => false
  | some ('.' :: rest) => isZone (rest.dropWhile Char.isDigit)
  | some rest => isZone rest

/-- Is the text a date, perhaps with a time of day? -/
def isDate (text : List Char) : Bool :=
  let year := do
    let rest ← twoDigits? text
    let rest ← twoDigits? rest
    after? '-' rest
  match year with
  | none => false
  | some rest =>
    ((do
      let rest ← twoDigits? rest
      let rest ← after? '-' rest
      twoDigits? rest) == some []) ||
    match (do
      let rest ← oneOrTwoDigits? rest
      let rest ← after? '-' rest
      oneOrTwoDigits? rest) with
    | some (t :: rest) =>
      if t = 'T' || t = 't' then isTime rest else isGap t && isTime (rest.dropWhile isGap)
    | _ => false

/-- Does an unquoted scalar stand for something other than its text? -/
def isOther (text : String) : Bool :=
  reservedWords.contains text || isInteger text.toList || isFraction text.toList ||
    isDate text.toList

end WasmCoverage.Yaml
