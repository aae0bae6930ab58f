import WasmCoverage.Shell.Token

/-!
# Reading shell scripts

A script is read by recursive descent on its characters.  `nextLine` reads the commands of one
line, which may go on over several lines inside of compound commands; a script is read and run
line by line, so that an error in a later line does not keep the earlier ones from running.

Every function gives what it has read and the characters that are left, or nothing if the text is no
script.  The depth is bounded by fuel that grows with the length of the text.
-/

namespace WasmCoverage.Shell

/-- A row of characters that is left. -/
abbrev Left := List Char

namespace Reader

/-- What follows a token that must stand at the start. -/
def expect (token : Token) (chars : List Char) : Option (List Char) :=
  match Token.first chars with
  | (found, rest) => if found = token then some rest else none

mutual

/-- The pieces of a word up to its end. -/
def word : Nat → Place → List Char → Option (Word × Left)
  | 0, _, _ => none
  | _ + 1, place, [] => if place = .bare ∨ place = .inDocument then some ([], []) else none
  | fuel + 1, place, c :: rest => do
    if place.ends c rest then return ([], c :: rest)
    let quoted := place.isQuoted
    let more (piece : Word → Word) (rest : List Char) : Option (Word × Left) := do
      let (pieces, rest) ← word fuel place rest
      return (piece pieces, rest)
    match c, rest with
    | '\\', '\n' :: rest => more id rest
    | '\\', d :: rest =>
      if place.resolves d then more (joinText [d] true) rest
      else more (joinText ['\\', d] true) rest
    | '\'', rest =>
      if quoted then more (joinText ['\''] true) rest
      else
        let (body, rest) ← singleQuoted? rest
        more (joinText body true) rest
    | '"', rest =>
      if place = .inDocument then more (joinText ['"'] true) rest
      else if quoted then more id rest
      else
        let (body, rest) ← word fuel .inQuotes rest
        let body := if body.isEmpty then [Piece.text [] true] else body
        more (body ++ ·) (rest.drop 1)
    | '$', rest =>
      match ← dollar fuel quoted rest with
      | (some piece, rest) => more (piece :: ·) rest
      | (none, rest) => more (joinText ['$'] quoted) rest
    | c, rest =>
      let (pieces, rest) ← word fuel (place.after c) rest
      return (joinText [c] quoted pieces, rest)

/-- What a dollar sign stands for, if for anything. -/
def dollar : Nat → Bool → List Char → Option (Option Piece × Left)
  | 0, _, _ => none
  | fuel + 1, quoted, chars => do
    match chars with
    | '(' :: '(' :: rest =>
      let (term, rest) ← word fuel (.inTerm 0) rest
      return (some (.arithmetic term quoted), rest.drop 2)
    | '(' :: rest =>
      let (command, rest) ← commands fuel true rest
      let rest ← expect .closing rest
      return (some (.output command quoted), rest)
    | '\x7b' :: '#' :: rest =>
      match parameterName? rest with
      | some (name, '\x7d' :: rest) => return (some (.parameter name .length quoted), rest)
      | _ =>
        let (piece, rest) ← braces fuel quoted ('#' :: rest)
        return (some piece, rest)
    | '\x7b' :: rest =>
      let (piece, rest) ← braces fuel quoted rest
      return (some piece, rest)
    | c :: rest =>
      match nameOf chars with
      | (d :: name, rest) =>
        return (some (.parameter (String.ofList (d :: name)) .value quoted), rest)
      | ([], _) =>
        if c.isDigit || signParameters.contains c then
          return (some (.parameter c.toString .value quoted), rest)
        else return (none, chars)
    | [] => return (none, [])

/-- A parameter in braces. -/
def braces : Nat → Bool → List Char → Option (Piece × Left)
  | 0, _, _ => none
  | fuel + 1, quoted, chars => do
    let (name, rest) := (parameterName? chars).getD ("", chars)
    match rest with
    | '\x7d' :: rest =>
      return (.parameter name (if name = "" then .malformed else .value) quoted, rest)
    | rest =>
      let (isPattern, use, rest) := operatorOf rest
      let (word, rest) ← word fuel (.inBraces (quoted && !isPattern)) rest
      return (.parameter name (if name = "" then .malformed else use word) quoted, rest.drop 1)

/-- Commands up to a token that ends them.  There may have to be one. -/
def commands : Nat → Bool → List Char → Option (Command × Left)
  | 0, _, _ => none
  | fuel + 1, mayBeNone, chars => do
    let chars := skipLines (chars.length + 1) chars
    let (token, _) := Token.first chars
    if mayBeNone && token.endsCommands then return (.nothing, chars)
    let (first, rest) ← chain fuel chars
    match Token.first rest with
    | (.semicolon, rest) | (.newline, rest) =>
      let (more, rest) ← commands fuel true rest
      return (.sequence [first, more], rest)
    | _ => return (first, rest)

/-- The commands of a line. -/
def line : Nat → List Char → Option (Command × Left)
  | 0, _ => none
  | fuel + 1, chars => do
    match Token.first chars with
    | (.newline, rest) => return (.nothing, rest)
    | (.endOfFile, _) => return (.nothing, [])
    | _ =>
      let (first, rest) ← chain fuel chars
      match Token.first rest with
      | (.semicolon, rest) =>
        let (more, rest) ← line fuel rest
        return (.sequence [first, more], rest)
      | (.newline, rest) => return (first, rest)
      | (.endOfFile, _) => return (first, [])
      | _ => none

/-- Commands of which each depends on the one before. -/
def chain : Nat → List Char → Option (Command × Left)
  | 0, _ => none
  | fuel + 1, chars => do
    let (first, rest) ← pipeline fuel chars
    links fuel first rest

/-- The further links of a chain. -/
def links : Nat → Command → List Char → Option (Command × Left)
  | 0, _, _ => none
  | fuel + 1, before, chars => do
    match Token.first chars with
    | (.and, rest) =>
      let (next, rest) ← pipeline fuel (skipLines (rest.length + 1) rest)
      links fuel (.both before next) rest
    | (.or, rest) =>
      let (next, rest) ← pipeline fuel (skipLines (rest.length + 1) rest)
      links fuel (.either before next) rest
    | _ => return (before, chars)

/-- A pipeline, which may be negated. -/
def pipeline : Nat → List Char → Option (Command × Left)
  | 0, _ => none
  | fuel + 1, chars => do
    match Token.first chars with
    | (.keyword "!", rest) =>
      let (body, rest) ← pipeline fuel rest
      return (.negated body, rest)
    | _ =>
      let (first, rest) ← command fuel chars
      let (more, rest) ← stages fuel rest
      return (if more.isEmpty then first else .pipeline (first :: more), rest)

/-- The further stages of a pipeline. -/
def stages : Nat → List Char → Option (List Command × Left)
  | 0, _ => none
  | fuel + 1, chars => do
    match Token.first chars with
    | (.pipe, rest) =>
      let (next, rest) ← command fuel (skipLines (rest.length + 1) rest)
      let (more, rest) ← stages fuel rest
      return (next :: more, rest)
    | _ => return ([], chars)

/-- One command. -/
def command : Nat → List Char → Option (Command × Left)
  | 0, _ => none
  | fuel + 1, chars => do
    let (body, rest) ← match Token.first chars with
      | (.keyword "if", rest) => branches fuel rest
      | (.keyword "while", rest) => loop fuel false rest
      | (.keyword "until", rest) => loop fuel true rest
      | (.keyword "for", rest) => each fuel rest
      | (.keyword "case", rest) => select fuel rest
      | (.opening, rest) => do
        let (body, rest) ← commands fuel false rest
        return (Command.subshell body, ← expect .closing rest)
      | (.keyword "\x7b", rest) => do
        let (body, rest) ← commands fuel false rest
        return (body, ← expect (.keyword "\x7d") rest)
      | (.word, rest) | (.redirection, rest) => return ← simple fuel [] [] [] rest
      | _ => none
    let (list, rest) ← redirections fuel rest
    return (if list.isEmpty then body else .redirected body list, rest)

/-- The redirection at the start. -/
def redirection : Nat → List Char → Option (Redirection × Left)
  | 0, _ => none
  | fuel + 1, chars => do
    match documentSign? chars with
    | some (channel, rest) =>
      let (mark, rest) ← word fuel .bare (skipSpace rest)
      let (mark, quoted) := (plainWord? mark).getD ([], false)
      let (body, rest) := takeDocument mark rest
      if quoted then return (.here channel [.text body true], rest)
      else
        let (body, _) ← word fuel .inDocument body
        return (.here channel body, rest)
    | none =>
      let (channel, sign, rest) := (redirectionSign? chars).getD (none, ">", chars)
      let (name, rest) ← word fuel .bare (skipSpace rest)
      return (redirectionOf channel sign name, rest)

/-- Redirections behind a compound command. -/
def redirections : Nat → List Char → Option (List Redirection × Left)
  | 0, _ => none
  | fuel + 1, chars => do
    match Token.first chars with
    | (.redirection, rest) =>
      let (first, rest) ← redirection fuel rest
      let (more, rest) ← redirections fuel rest
      return (first :: more, rest)
    | _ => return ([], chars)

/-- The rest of a simple command, which may turn out to define a function. -/
def simple : Nat → List (String × Word) → List Word → List Redirection → List Char →
    Option (Command × Left)
  | 0, _, _, _, _ => none
  | fuel + 1, assigned, words, list, chars => do
    match Token.plainFirst chars with
    | (.redirection, rest) =>
      let (next, rest) ← redirection fuel rest
      simple fuel assigned words (list ++ [next]) rest
    | (.word, rest) =>
      let (next, rest) ← word fuel .bare rest
      match if words.isEmpty then assignment? next else none with
      | some assignment => simple fuel (assigned ++ [assignment]) words list rest
      | none => simple fuel assigned (words ++ [next]) list rest
    | (.opening, rest) =>
      match assigned, words, list with
      | [], [[.text s false]], [] =>
        let text := String.ofList s
        if (nameOf s).1 ≠ s || special.contains text then none
        let rest ← expect .closing rest
        let (body, rest) ← command fuel (skipLines (rest.length + 1) rest)
        return (.define text body, rest)
      | _, _, _ => none
    | _ => return (.simple assigned words list, chars)

/-- A conditional after its first word. -/
def branches : Nat → List Char → Option (Command × Left)
  | 0, _ => none
  | fuel + 1, chars => do
    let (condition, rest) ← commands fuel false chars
    let rest ← expect (.keyword "then") rest
    let (body, rest) ← commands fuel false rest
    match Token.first rest with
    | (.keyword "elif", rest) =>
      let (otherwise, rest) ← branches fuel rest
      return (.conditional condition body otherwise, rest)
    | (.keyword "else", rest) =>
      let (otherwise, rest) ← commands fuel false rest
      return (.conditional condition body otherwise, ← expect (.keyword "fi") rest)
    | _ => return (.conditional condition body .nothing, ← expect (.keyword "fi") rest)

/-- A body between `do` and `done`. -/
def body : Nat → List Char → Option (Command × Left)
  | 0, _ => none
  | fuel + 1, chars => do
    let rest ← expect (.keyword "do") (skipLines (chars.length + 1) chars)
    let (body, rest) ← commands fuel false rest
    return (body, ← expect (.keyword "done") rest)

/-- A loop after its first word. -/
def loop : Nat → Bool → List Char → Option (Command × Left)
  | 0, _, _ => none
  | fuel + 1, until_, chars => do
    let (condition, rest) ← commands fuel false chars
    let (body, rest) ← body fuel rest
    return (.loop until_ condition body, rest)

/-- A loop over words after its first word. -/
def each : Nat → List Char → Option (Command × Left)
  | 0, _ => none
  | fuel + 1, chars => do
    let (name, rest) := nameOf (skipSpace chars)
    if name.isEmpty then none
    let next := skipLines (rest.length + 1) rest
    match Token.first next with
    | (.keyword "in", rest) =>
      let (words, rest) ← words fuel rest
      let (body, rest) ← body fuel rest
      return (.each (String.ofList name) (some words) body, rest)
    | found =>
      let (body, rest) ← body fuel (if found.1 = .semicolon then found.2 else next)
      return (.each (String.ofList name) none body, rest)

/-- Words up to the end of the line. -/
def words : Nat → List Char → Option (List Word × Left)
  | 0, _ => none
  | fuel + 1, chars => do
    match Token.plainFirst chars with
    | (.word, rest) =>
      let (first, rest) ← word fuel .bare rest
      let (more, rest) ← words fuel rest
      return (first :: more, rest)
    | (.semicolon, rest) | (.newline, rest) => return ([], rest)
    | _ => none

/-- A selection after its first word. -/
def select : Nat → List Char → Option (Command × Left)
  | 0, _ => none
  | fuel + 1, chars => do
    let (subject, rest) ← word fuel .bare (skipSpace chars)
    let rest ← expect (.keyword "in") (skipLines (rest.length + 1) rest)
    let (choices, rest) ← choices fuel rest
    return (.select subject choices, rest)

/-- The choices of a selection up to its last word. -/
def choices : Nat → List Char → Option (List (List Word × Command) × Left)
  | 0, _ => none
  | fuel + 1, chars => do
    let chars := skipLines (chars.length + 1) chars
    match Token.first chars with
    | (.keyword "esac", rest) => return ([], rest)
    | (token, rest) =>
      let (patterns, rest) ← patterns fuel (if token = .opening then rest else chars)
      let (body, rest) ← commands fuel true rest
      match Token.first rest with
      | (.keyword "esac", rest) => return ([(patterns, body)], rest)
      | (.endCase, rest) =>
        let (more, rest) ← choices fuel rest
        return ((patterns, body) :: more, rest)
      | _ => none

/-- The patterns of a choice up to the parenthesis. -/
def patterns : Nat → List Char → Option (List Word × Left)
  | 0, _ => none
  | fuel + 1, chars => do
    let (pattern, rest) ← word fuel .bare (skipSpace chars)
    match Token.plainFirst rest with
    | (.closing, rest) => return ([pattern], rest)
    | (.pipe, rest) =>
      let (more, rest) ← patterns fuel rest
      return (pattern :: more, rest)
    | _ => none

end

end Reader

/-! ## Scripts -/

/-- The next line of a script. -/
inductive NextLine where
  | done
  | line (command : Command) (rest : List Char)
  | malformed

/-- The commands of the next line of a script, and what is left.  There is no next line at the
end. -/
def nextLine (chars : List Char) : NextLine :=
  match skipLines (chars.length + 1) chars with
  | [] => .done
  | chars =>
    match Reader.line (8 * chars.length + 16) chars with
    | some (command, rest) => .line command rest
    | none => .malformed

end WasmCoverage.Shell
