import WasmCoverage.Template.Reader

/-!
# Which texts are accepted

A text with references is accepted if it can be read, or if it looks simple: every `${` begins a
way of plain keys, or a name with a colon and plain arguments, with blanks and line breaks beside
them, and ends in a brace.  What looks simple may still be unreadable; that shows when it is
resolved.
-/

namespace WasmCoverage.Template

open WasmCoverage.Lexeme

/-- A blank or a break of a line or page. -/
def isGap (c : Char) : Bool :=
  c = ' ' || (9 ≤ c.toNat && c.toNat ≤ 13)

/-- May the character stand in a simple key? -/
def isSimpleKeyChar (c : Char) : Bool :=
  isNameChar c || c = '$'

/-- May the character stand in a simple argument? -/
def isSimpleArgumentChar (c : Char) : Bool :=
  isNameChar c ||
    ['/', '-', '+', '.', '$', '%', '*', '@', '?', '|'].contains c

/-- A character that is there, and what follows it. -/
def expect? (mark : Char) : List Char → Option (List Char)
  | c :: rest => if c = mark then some rest else none
  | [] => none

/-- What follows one or more characters of a class. -/
def dropSome? (test : Char → Bool) (chars : List Char) : Option (List Char) :=
  match chars with
  | c :: rest => if test c then some (rest.dropWhile test) else none
  | [] => none

/-- What follows a simple key, which may stand in brackets. -/
def simpleKey? (chars : List Char) : Option (List Char) :=
  match chars with
  | '[' :: rest => (dropSome? isSimpleKeyChar rest).bind (expect? ']')
  | chars => dropSome? isSimpleKeyChar chars

/-- What follows the steps after the first of a simple way. -/
def simpleSteps : Nat → List Char → List Char
  | 0, chars => chars
  | fuel + 1, chars =>
    let step := match chars with
      | '.' :: rest => dropSome? isSimpleKeyChar rest
      | '[' :: rest => simpleKey? ('[' :: rest)
      | _ => none
    match step with
    | some rest => simpleSteps fuel rest
    | none => chars

/-- What follows a simple way and its brace. -/
def simpleWay? (chars : List Char) : Option (List Char) := do
  let rest ← simpleKey? ((chars.dropWhile isGap).dropWhile (· = '.'))
  expect? '\x7d' ((simpleSteps rest.length rest).dropWhile isGap)

/-- What follows a simple name. -/
def simpleName? (chars : List Char) : Option (List Char) :=
  match chars with
  | c :: rest =>
    if beginsName c then some (rest.dropWhile fun d => isNameChar d || d = '-') else none
  | [] => none

/-- What follows the names after the first, each behind a dot. -/
def simpleNames : Nat → List Char → List Char
  | 0, chars => chars
  | fuel + 1, chars =>
    match (expect? '.' chars).bind simpleName? with
    | some rest => simpleNames fuel rest
    | none => chars

/-- What follows the arguments after the first, each behind a comma. -/
def simpleArguments : Nat → List Char → List Char
  | 0, chars => chars
  | fuel + 1, chars =>
    let next := (expect? ',' (chars.dropWhile isGap)).bind fun rest =>
      dropSome? isSimpleArgumentChar (rest.dropWhile isGap)
    match next with
    | some rest => simpleArguments fuel rest
    | none => chars

/-- What follows a simple question and its brace.  The name and the arguments may be left out. -/
def simpleQuestion? (chars : List Char) : Option (List Char) := do
  let chars := chars.dropWhile isGap
  let named := match simpleName? chars with
    | some rest => simpleNames rest.length rest
    | none => chars
  let body := (← expect? ':' (named.dropWhile isGap)).dropWhile isGap
  let rest := match dropSome? isSimpleArgumentChar body with
    | some rest => simpleArguments rest.length rest
    | none => body
  expect? '\x7d' (rest.dropWhile isGap)

/-- Does every `${` begin something simple? -/
def isSimple : Nat → List Char → Bool
  | 0, _ => false
  | _ + 1, [] => true
  | fuel + 1, '$' :: '\x7b' :: rest =>
    match simpleWay? rest <|> simpleQuestion? rest with
    | some rest => isSimple fuel rest
    | none => false
  | fuel + 1, _ :: rest => isSimple fuel rest

/-- Is a text accepted among the settings? -/
def isAcceptedText (text : String) : Bool :=
  isSimple (text.length + 1) text.toList || (read? text).isSome

/-- Is a value accepted among the settings, with everything in it? -/
def isAccepted : Json → Bool
  | .text s => isAcceptedText s.lossy
  | .list items => items.attach.all fun ⟨item, _⟩ => isAccepted item
  | .record entries => entries.attach.all fun ⟨entry, _⟩ => isAccepted entry.2
  | _ => true
termination_by value => sizeOf value
decreasing_by
  all_goals simp_wf
  · have := List.sizeOf_lt_of_mem ‹_›
    omega
  · rename_i h
    have := List.sizeOf_lt_of_mem h
    have : sizeOf entry.2 < sizeOf entry := by
      obtain ⟨name, value⟩ := entry
      simp only [Prod.mk.sizeOf_spec]
      omega
    omega

end WasmCoverage.Template
