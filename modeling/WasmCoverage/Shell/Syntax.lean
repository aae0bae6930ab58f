/-!
# Commands of the shell

A toolchain need not be made of binaries: any of its tools may be a shell script.  This is the
abstract form of such scripts.  A word is a row of pieces, some of which are only known when the
command runs: the value of a parameter or the output of other commands.  What stood in quotes is
marked, because it is neither split at blanks nor taken for a pattern.
-/

namespace WasmCoverage.Shell

mutual

/-- A piece of a word. -/
inductive Piece where
  /-- Text; in quotes it stands for itself only. -/
  | text (s : List Char) (quoted : Bool)
  /-- The value of a parameter. -/
  | parameter (name : String) (use : Use) (quoted : Bool)
  /-- The output of a command. -/
  | output (command : Command) (quoted : Bool)
  /-- The value of an arithmetic term. -/
  | arithmetic (term : List Piece) (quoted : Bool)

/-- How the value of a parameter is used.  Where there is a flag `orEmpty`, an empty value counts
as no value. -/
inductive Use where
  | value
  | length
  /-- Another word in place of no value. -/
  | default (orEmpty : Bool) (word : List Piece)
  /-- The same, and the parameter gets that value. -/
  | assign (orEmpty : Bool) (word : List Piece)
  /-- Another word in place of a value. -/
  | alternative (orEmpty : Bool) (word : List Piece)
  /-- A complaint in place of no value. -/
  | demand (orEmpty : Bool) (word : List Piece)
  /-- The value without what fits a pattern at its start or end. -/
  | without (atEnd longest : Bool) (pattern : List Piece)
  /-- There is no such use. -/
  | malformed

/-- A redirection of a channel. -/
inductive Redirection where
  | read (channel : Nat) (target : List Piece)
  | write (channel : Nat) (append : Bool) (target : List Piece)
  | duplicate (channel : Nat) (target : List Piece)
  /-- The channel reads a text that stands in the script. -/
  | here (channel : Nat) (body : List Piece)

/-- A command. -/
inductive Command where
  | simple (assignments : List (String × List Piece)) (words : List (List Piece))
      (redirections : List Redirection)
  | sequence (commands : List Command)
  | both (first second : Command)
  | either (first second : Command)
  | negated (command : Command)
  | pipeline (commands : List Command)
  | subshell (body : Command)
  | conditional (condition body otherwise : Command)
  | loop (until_ : Bool) (condition body : Command)
  /-- The body once for every word, or for every argument. -/
  | each (name : String) (words : Option (List (List Piece))) (body : Command)
  /-- The first body of which a pattern fits the word. -/
  | select (word : List Piece) (choices : List (List (List Piece) × Command))
  | define (name : String) (body : Command)
  | redirected (body : Command) (redirections : List Redirection)

end

/-- A word. -/
abbrev Word := List Piece

/-- The command that does nothing. -/
def Command.nothing : Command := .sequence []

end WasmCoverage.Shell
