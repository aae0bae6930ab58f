import WasmCoverage.Shell.Number
import WasmCoverage.Table

/-!
# Arithmetic of the shell

The shell reckons with whole numbers of 64 bits, which wrap around.  Terms are made of numbers in
decimal, octal and hexadecimal notation, of variables, and of signs that bind as in most
languages; a variable without a value is zero.
-/

namespace WasmCoverage.Shell.Arithmetic

open WasmCoverage.Text

/-- Why a text has no value. -/
inductive Fault where
  /-- Something else was expected. -/
  | expected (what : String)
  | divisionByZero
  /-- The value of a variable is no number. -/
  | noNumber (text : String)
  deriving DecidableEq, Repr

/-- The wording of a fault of a text. -/
def Fault.message (text : String) : Fault → String
  | expected what => "arithmetic expression: expecting " ++ what ++ ": \"" ++ text ++ "\""
  | divisionByZero => "arithmetic expression: division by zero: \"" ++ text ++ "\""
  | noNumber number => "Illegal number: " ++ number

/-! ## Terms -/

/-- A term. -/
inductive Term where
  | number (n : Int64)
  | named (name : String)
  | unary (sign : String) (operand : Term)
  | binary (sign : String) (first second : Term)
  deriving Repr

/-- The smallest unit of a text. -/
inductive Token where
  | number (n : Int64)
  | name (s : String)
  | sign (s : String)
  deriving DecidableEq, Repr

/-- The signs of more than one character. -/
def longSigns : List String :=
  ["<<", ">>", "<=", ">=", "==", "!=", "&&", "||"]

/-- How strongly a sign between two terms binds. -/
def level? (sign : String) : Option Nat :=
  Table.get? sign
    [("||", 1), ("&&", 2), ("|", 3), ("^", 4), ("&", 5), ("==", 6), ("!=", 6), ("<", 7), ("<=", 7),
     (">", 7), (">=", 7), ("<<", 8), (">>", 8), ("+", 9), ("-", 9), ("*", 10), ("/", 10),
     ("%", 10)]

/-! ## Reading -/

/-- May a name begin with the character? -/
def startsName (c : Char) : Bool :=
  c.isAlpha || c = '_'

/-- The tokens of a text. -/
def tokens : Nat → List Char → List Token
  | 0, _ => []
  | _ + 1, [] => []
  | fuel + 1, c :: rest =>
    if [' ', '\t', '\n'].contains c then tokens fuel rest
    else if startsName c then
      let name := (c :: rest).takeWhile fun d => d.isAlphanum || d = '_'
      .name (String.ofList name) :: tokens fuel ((c :: rest).drop name.length)
    else
      match Number.natural? (c :: rest) with
      | some (n, rest) => .number (.ofInt (min n Number.largest)) :: tokens fuel rest
      | none =>
        match longSigns.find? fun sign => sign.toList.isPrefixOf (c :: rest) with
        | some sign => .sign sign :: tokens fuel ((c :: rest).drop sign.length)
        | none => .sign c.toString :: tokens fuel rest

/-- The signs that stand before one term. -/
def unarySigns : List String := ["+", "-", "!", "~"]

mutual

/-- A term without signs between its parts, and what is left. -/
def primary : Nat → List Token → Except Fault (Term × List Token)
  | 0, _ => .error (.expected "primary")
  | fuel + 1, found =>
    match found with
    | .number n :: rest => .ok (.number n, rest)
    | .name s :: rest => .ok (.named s, rest)
    | .sign sign :: rest =>
      if sign = "(" then do
        let (term, rest) ← joined fuel 1 rest
        match rest with
        | .sign ")" :: rest => return (term, rest)
        | _ => throw (.expected "')'")
      else if unarySigns.contains sign then do
        let (term, rest) ← primary fuel rest
        return (.unary sign term, rest)
      else .error (.expected "primary")
    | [] => .error (.expected "primary")

/-- Terms with signs between them that bind at least so strongly, and what is left. -/
def joined : Nat → Nat → List Token → Except Fault (Term × List Token)
  | 0, _, _ => .error (.expected "primary")
  | fuel + 1, least, found => do
    let (first, rest) ← primary fuel found
    further fuel least first rest

/-- A term with further ones joined to it, and what is left. -/
def further : Nat → Nat → Term → List Token → Except Fault (Term × List Token)
  | 0, _, before, found => .ok (before, found)
  | fuel + 1, least, before, found =>
    match found with
    | .sign sign :: rest =>
      match level? sign with
      | some level =>
        if level < least then .ok (before, found)
        else do
          let (next, rest) ← joined fuel (level + 1) rest
          further fuel least (.binary sign before next) rest
      | none => .ok (before, found)
    | _ => .ok (before, found)

end

/-- The term that a text spells. -/
def read (text : String) : Except Fault Term := do
  let found := tokens (text.length + 1) text.toList
  let (term, rest) ← joined (8 * found.length + 16) 1 found
  if rest.isEmpty then return term else throw (.expected "EOF")

/-! ## Reckoning -/

/-- One if it holds, else zero. -/
def truth (b : Bool) : Int64 :=
  if b then 1 else 0

/-- Two values combined by a sign. -/
def combine (sign : String) (m n : Int64) : Except Fault Int64 :=
  match sign with
  | "+" => .ok (m + n)
  | "-" => .ok (m - n)
  | "*" => .ok (m * n)
  | "/" => if n = 0 then .error .divisionByZero else .ok (m / n)
  | "%" => if n = 0 then .error .divisionByZero else .ok (m % n)
  | "<<" => .ok (m <<< n)
  | ">>" => .ok (m >>> n)
  | "<" => .ok (truth (m < n))
  | "<=" => .ok (truth (m ≤ n))
  | ">" => .ok (truth (n < m))
  | ">=" => .ok (truth (n ≤ m))
  | "==" => .ok (truth (m = n))
  | "!=" => .ok (truth (m ≠ n))
  | "&" => .ok (m &&& n)
  | "^" => .ok (m ^^^ n)
  | "|" => .ok (m ||| n)
  | _ => .ok n

/-- The value of a variable. -/
def valueNamed (lookup : String → Option String) (name : String) : Except Fault Int64 :=
  let text := (lookup name).getD ""
  match Number.whole? Number.natural? text with
  | some n => .ok (.ofInt n)
  | none => if text.toList.all Number.isMargin then .ok 0 else .error (.noNumber text)

/-- The value of a term. -/
def value (lookup : String → Option String) : Term → Except Fault Int64
  | .number n => .ok n
  | .named name => valueNamed lookup name
  | .unary sign operand => do
    let n ← value lookup operand
    return match sign with
      | "-" => -n
      | "!" => truth (n = 0)
      | "~" => ~~~n
      | _ => n
  | .binary sign first second => do
    let m ← value lookup first
    if sign = "&&" && m = 0 then return 0
    if sign = "||" && m ≠ 0 then return 1
    let n ← value lookup second
    if sign = "&&" || sign = "||" then return truth (n ≠ 0)
    combine sign m n

/-- The value of a text. -/
def evaluate (lookup : String → Option String) (text : String) : Except Fault Int64 := do
  let term ← read text
  value lookup term

end WasmCoverage.Shell.Arithmetic
