import WasmCoverage.Shell.Pattern

/-!
# Fields

A word of a command becomes any number of fields: the values in it are split at separators unless
they stood in quotes.  On the way a word is a row of atoms.

Main statement: `splitFields_quoted`, what stood in quotes is one field.
-/

namespace WasmCoverage.Shell

/-- A part of a word whose values are known. -/
inductive Atom where
  /-- A character, whether it stood in quotes, and whether words may be split at it. -/
  | char (c : Char) (quoted splits : Bool)
  /-- Nothing, but it makes a field. -/
  | empty
  /-- The border between two arguments. -/
  | cut
  deriving DecidableEq, Repr

/-- The atoms of a text. -/
def atomsOf (text : List Char) (quoted splits : Bool) : List Atom :=
  let chars := text.map fun c => Atom.char c quoted splits
  if quoted && chars.isEmpty then [.empty] else chars

/-- The atoms of arguments, each of which is a field of its own. -/
def atomsOfArguments (quoted : Bool) : List String → List Atom
  | [] => []
  | [last] => atomsOf last.toList quoted (!quoted)
  | first :: rest => atomsOf first.toList quoted (!quoted) ++ .cut :: atomsOfArguments quoted rest

/-- Is the character a blank, so that some of them in a row separate only once? -/
def isBlankSeparator (c : Char) : Bool :=
  [' ', '\t', '\n'].contains c

/-- The fields in a row of atoms; `field` is the one that is being collected, and `closed` tells
that blanks have ended one, so that another separator belongs to them. -/
def splitFields (separators : List Char) (closed : Bool) (field : Option (List Marked)) :
    List Atom → List (List Marked)
  | [] => field.toList
  | .empty :: rest => splitFields separators false (some (field.getD [])) rest
  | .cut :: rest => field.toList ++ splitFields separators false none rest
  | .char c quoted splits :: rest =>
    if splits && separators.contains c then
      if isBlankSeparator c then
        field.toList ++ splitFields separators (closed || field.isSome) none rest
      else if closed then splitFields separators false none rest
      else field.getD [] :: splitFields separators false none rest
    else splitFields separators false (some (field.getD [] ++ [(c, quoted)])) rest

theorem splitFields_marked (separators text : List Char) (closed : Bool) (before : List Marked) :
    splitFields separators closed (some before) (text.map fun c => Atom.char c true false) =
      [before ++ text.map fun c => (c, true)] := by
  induction text generalizing closed before with
  | nil => simp [splitFields]
  | cons c rest ih => simp [splitFields, ih]

/-- **What stood in quotes is one field.** -/
theorem splitFields_quoted (separators text : List Char) :
    splitFields separators false none (atomsOf text true false) =
      [text.map fun c => (c, true)] := by
  cases text with
  | nil => simp [atomsOf, splitFields]
  | cons c rest => simp [atomsOf, splitFields, splitFields_marked]

/-- The text of a field. -/
def plain (field : List Marked) : String :=
  String.ofList (field.map (·.1))

/-- The marked characters of a row of atoms that is not split. -/
def joinAtoms : List Atom → List Marked
  | [] => []
  | .char c quoted _ :: rest => (c, quoted) :: joinAtoms rest
  | .empty :: rest => joinAtoms rest
  | .cut :: rest => (' ', false) :: joinAtoms rest

end WasmCoverage.Shell
