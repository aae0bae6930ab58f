import WasmCoverage.Shell.Syntax

/-!
# Tokens of shell scripts

A script is made of words, of signs between them and of line feeds.  Some words have a meaning of
their own where a command may begin.

A redirection may read a text that stands in the script, from the next line up to one that
consists of a chosen word.  Such lines are taken out of the script when the redirection is read.

Main statement: `skipSpace_idem`, no blanks are left at the start once they were skipped.
-/

namespace WasmCoverage.Shell

/-! ## Characters -/

/-- A blank within a line. -/
def isSpace (c : Char) : Bool :=
  c = ' ' || c = '\t'

/-- Does the character end a word outside of quotes? -/
def endsWord (c : Char) : Bool :=
  [' ', '\t', '\n', '|', '&', ';', '<', '>', '(', ')'].contains c

/-- May a name begin with the character? -/
def startsName (c : Char) : Bool :=
  c.isAlpha || c = '_'

/-- May the character stand in a name? -/
def inName (c : Char) : Bool :=
  c.isAlphanum || c = '_'

/-- The parameters whose name is a single sign. -/
def signParameters : List Char := ['@', '*', '#', '?', '$', '!']

/-- The characters that a backslash makes plain between double quotes. -/
def plainInQuotes : List Char := ['$', '\x60', '"', '\\']

/-- The characters without blanks and line continuations at the start. -/
def skipSpace : List Char → List Char
  | '\\' :: '\n' :: rest => skipSpace rest
  | c :: rest => if isSpace c then skipSpace rest else c :: rest
  | [] => []

/-- The same, with a comment up to the end of its line. -/
def skipComment (chars : List Char) : List Char :=
  match skipSpace chars with
  | '#' :: rest => rest.dropWhile (· ≠ '\n')
  | rest => rest

/-- The characters without blanks, comments and line feeds at the start. -/
def skipLines : Nat → List Char → List Char
  | 0, chars => chars
  | fuel + 1, chars =>
    match skipComment chars with
    | '\n' :: rest => skipLines fuel rest
    | rest => rest

/-- Where a word is read. -/
inductive Place where
  | bare
  | inQuotes
  /-- Inside the braces of a parameter. -/
  | inBraces (quoted : Bool)
  /-- In an arithmetic term, inside so many parentheses. -/
  | inTerm (depth : Nat)
  /-- In a text that a redirection reads. -/
  | inDocument
  deriving DecidableEq

/-- Does everything stand in quotes there? -/
def Place.isQuoted : Place → Bool
  | bare => false
  | inQuotes | inTerm _ | inDocument => true
  | inBraces quoted => quoted

/-- Does the character, with others after it, end a word at the place? -/
def Place.ends (place : Place) (c : Char) (rest : List Char) : Bool :=
  match place with
  | bare => endsWord c
  | inQuotes => c = '"'
  | inBraces _ => c = '\x7d'
  | inTerm depth => c = ')' && depth = 0 && rest.head? = some ')'
  | inDocument => false

/-- The place after a character that stands for itself. -/
def Place.after (place : Place) (c : Char) : Place :=
  match place with
  | inTerm depth =>
    if c = '(' then inTerm (depth + 1) else if c = ')' then inTerm (depth - 1) else inTerm depth
  | place => place

/-- Is a backslash before the character dropped at the place? -/
def Place.resolves (place : Place) (c : Char) : Bool :=
  !place.isQuoted || (place = .inBraces true && c = '\x7d') ||
    (plainInQuotes.contains c && (place ≠ .inDocument || c ≠ '"'))

/-- The characters up to a single quote, and what follows it. -/
def singleQuoted? : List Char → Option (List Char × List Char)
  | [] => none
  | '\'' :: rest => some ([], rest)
  | c :: rest => (singleQuoted? rest).map fun (body, tail) => (c :: body, tail)

/-- A name at the start, and what follows it. -/
def nameOf (chars : List Char) : List Char × List Char :=
  match chars with
  | c :: _ => if startsName c then (chars.takeWhile inName, chars.dropWhile inName) else ([], chars)
  | [] => ([], [])

/-- The plain text at the start, up to the end of the word. -/
def bareWord (chars : List Char) : String :=
  String.ofList (chars.takeWhile fun c => !endsWord c)

/-- The sign of a redirection at the start, with the channel it is about. -/
def redirectionSign? (chars : List Char) : Option (Option Nat × String × List Char) :=
  let digits := chars.takeWhile Char.isDigit
  let channel := if digits.length = 1 then (String.ofList digits).toNat? else none
  if digits.length > 1 then none
  else
    match chars.drop digits.length with
    | '>' :: '>' :: rest => some (channel, ">>", rest)
    | '>' :: '&' :: rest => some (channel, ">&", rest)
    | '>' :: '|' :: rest => some (channel, ">", rest)
    | '>' :: rest => some (channel, ">", rest)
    | '<' :: '&' :: rest => some (channel, "<&", rest)
    | '<' :: '<' :: _ => none
    | '<' :: rest => some (channel, "<", rest)
    | _ => none

/-- The channel of a redirection from a text in the script at the start, and what follows its
sign. -/
def documentSign? (chars : List Char) : Option (Nat × List Char) :=
  let digits := chars.takeWhile Char.isDigit
  let channel := ((String.ofList digits).toNat?).getD 0
  if digits.length > 1 then none
  else
    match chars.drop digits.length with
    | '<' :: '<' :: rest => some (channel, rest)
    | _ => none

/-- The redirection with a sign. -/
def redirectionOf (channel : Option Nat) (sign : String) (target : Word) : Redirection :=
  match sign with
  | ">>" => .write (channel.getD 1) true target
  | ">&" => .duplicate (channel.getD 1) target
  | "<&" => .duplicate (channel.getD 0) target
  | "<" => .read (channel.getD 0) target
  | _ => .write (channel.getD 1) false target

/-! ## Texts that stand in the script -/

/-- The characters up to the end of the line, except in quotes, and what follows it. -/
def toLineEnd (quote : Option Char) : List Char → List Char × List Char
  | [] => ([], [])
  | '\\' :: c :: rest =>
    let (line, more) := toLineEnd quote rest
    ('\\' :: c :: line, more)
  | c :: rest =>
    if c = '\n' && quote.isNone then ([], rest)
    else
      let next := match quote with
        | some mark => if c = mark then none else some mark
        | none => if c = '\'' || c = '"' then some c else none
      let (line, more) := toLineEnd next rest
      (c :: line, more)

/-- The lines up to one that is the chosen word, and what follows it. -/
def documentLines (word : List Char) : Nat → List Char → List Char × List Char
  | 0, chars => ([], chars)
  | _ + 1, [] => ([], [])
  | fuel + 1, chars =>
    let line := chars.takeWhile (· ≠ '\n')
    let rest := chars.drop (line.length + 1)
    if line = word then ([], rest)
    else
      let (body, rest) := documentLines word fuel rest
      (line ++ '\n' :: body, rest)

/-- The text that a redirection behind `<<` reads, and the script without it. -/
def takeDocument (word chars : List Char) : List Char × List Char :=
  let (line, below) := toLineEnd none chars
  let (body, rest) := documentLines word (below.length + 1) below
  (body, line ++ '\n' :: rest)

/-- The plain text of a word, and whether some of it stood in quotes. -/
def plainWord? : Word → Option (List Char × Bool)
  | [] => some ([], false)
  | .text s quoted :: rest =>
    (plainWord? rest).map fun (more, others) => (s ++ more, quoted || others)
  | _ => none

/-- The name and the value at the start of an assignment, if the word is one. -/
def assignment? (word : Word) : Option (String × Word) :=
  match word with
  | .text chars false :: rest =>
    let (name, tail) := nameOf chars
    match name, tail with
    | _ :: _, '=' :: value =>
      some (String.ofList name, if value.isEmpty then rest else .text value false :: rest)
    | _, _ => none
  | _ => none

/-- Plain characters before the pieces of a word. -/
def joinText (chars : List Char) (quoted : Bool) : Word → Word
  | .text s q :: rest =>
    if q = quoted then .text (chars ++ s) q :: rest else .text chars quoted :: .text s q :: rest
  | rest => .text chars quoted :: rest

/-- The operator inside the braces of a parameter: whether a pattern follows, its effect on the
word that follows, and what is left. -/
def operatorOf : List Char → Bool × (Word → Use) × List Char
  | ':' :: '-' :: rest => (false, .default true, rest)
  | ':' :: '=' :: rest => (false, .assign true, rest)
  | ':' :: '+' :: rest => (false, .alternative true, rest)
  | ':' :: '?' :: rest => (false, .demand true, rest)
  | '-' :: rest => (false, .default false, rest)
  | '=' :: rest => (false, .assign false, rest)
  | '+' :: rest => (false, .alternative false, rest)
  | '?' :: rest => (false, .demand false, rest)
  | '%' :: '%' :: rest => (true, .without true true, rest)
  | '%' :: rest => (true, .without true false, rest)
  | '#' :: '#' :: rest => (true, .without false true, rest)
  | '#' :: rest => (true, .without false false, rest)
  | rest => (false, fun _ => .malformed, rest)

/-- The name of a parameter inside braces, and what follows it. -/
def parameterName? (chars : List Char) : Option (String × List Char) :=
  match nameOf chars with
  | (c :: name, rest) => some (String.ofList (c :: name), rest)
  | ([], _) =>
    let digits := chars.takeWhile Char.isDigit
    match digits, chars with
    | _ :: _, _ => some (String.ofList digits, chars.drop digits.length)
    | [], c :: rest => if signParameters.contains c then some (c.toString, rest) else none
    | [], [] => none

/-! ## Tokens -/

/-- A token, as far as the grammar goes. -/
inductive Token where
  | endOfFile
  | newline
  | semicolon
  | background
  | and
  | or
  | pipe
  | opening
  | closing
  | endCase
  | redirection
  | word
  /-- A word with a meaning of its own. -/
  | keyword (text : String)
  deriving DecidableEq, Repr

/-- The words with a meaning of their own. -/
def keywords : List String :=
  ["!", "case", "do", "done", "elif", "else", "esac", "fi", "for", "if", "in", "then", "until",
   "while", "\x7b", "\x7d"]

/-- The commands after which assignments stay, of which a failed redirection ends the shell, and of
which no function has the name. -/
def special : List String :=
  [":", "break", "continue", "eval", "exec", "exit", "export", "return", "set", "shift", "trap",
   "unset"]

/-- Does a token end a row of commands inside of another command? -/
def Token.endsCommands : Token → Bool
  | endOfFile | closing | endCase => true
  | keyword text => ["do", "done", "elif", "else", "esac", "fi", "then", "\x7d"].contains text
  | _ => false

/-- The token at the start, and what follows it; words and redirections are not read yet. -/
def Token.first (chars : List Char) : Token × List Char :=
  match skipComment chars with
  | [] => (.endOfFile, [])
  | '\n' :: rest => (.newline, rest)
  | ';' :: ';' :: rest => (.endCase, rest)
  | ';' :: rest => (.semicolon, rest)
  | '&' :: '&' :: rest => (.and, rest)
  | '&' :: rest => (.background, rest)
  | '|' :: '|' :: rest => (.or, rest)
  | '|' :: rest => (.pipe, rest)
  | '(' :: rest => (.opening, rest)
  | ')' :: rest => (.closing, rest)
  | chars =>
    if (redirectionSign? chars).isSome || (documentSign? chars).isSome then (.redirection, chars)
    else
      let word := bareWord chars
      if keywords.contains word then (.keyword word, chars.drop word.length) else (.word, chars)

/-- The same where no word has a meaning of its own. -/
def Token.plainFirst (chars : List Char) : Token × List Char :=
  match first chars with
  | (.keyword _, _) => (.word, skipComment chars)
  | found => found

/-- **No blanks are left at the start once they were skipped.** -/
theorem skipSpace_idem (chars : List Char) : skipSpace (skipSpace chars) = skipSpace chars := by
  fun_induction skipSpace chars with
  | case1 rest ih => exact ih
  | case2 c rest _ hc ih => exact ih
  | case3 c rest h hc =>
    rw [skipSpace.eq_def]
    split
    · next rest' heq => exact absurd heq (by intro e; cases e; exact h _ rfl rfl)
    · next heq => cases heq; simp [hc]
    · next heq => cases heq
  | case4 => rfl

end WasmCoverage.Shell
