/-!
# Patterns of the shell

`*` fits any text, `?` any character and a list in square brackets any of some characters;
everything else fits itself, and so does everything that stood in quotes.

Main statements: `fits_ones_iff`, a pattern without special signs fits one text, and `fits_any`,
`*` fits every text.
-/

namespace WasmCoverage.Shell

/-- A sign of a pattern. -/
inductive Sign where
  | one (c : Char)
  | anyOne
  | any
  /-- One of some ranges of characters, or none of them. -/
  | range (negated : Bool) (ranges : List (Char × Char))
  deriving Repr

/-- A character of a word, and whether it stood in quotes. -/
abbrev Marked := Char × Bool

namespace Sign

/-- The ranges up to the closing bracket and what follows it.  A bracket that comes first is one
of the characters. -/
def ranges? : Nat → Bool → List Marked → Option (List (Char × Char) × List Marked)
  | 0, _, _ => none
  | _ + 1, _, [] => none
  | fuel + 1, first, (c, quoted) :: rest =>
    if c = ']' && !quoted && !first then some ([], rest)
    else
      match rest with
      | ('-', false) :: (d, q) :: rest' =>
        if d = ']' && !q then
          (ranges? fuel false rest).map fun (more, tail) => ((c, c) :: more, tail)
        else (ranges? fuel false rest').map fun (more, tail) => ((c, d) :: more, tail)
      | rest => (ranges? fuel false rest).map fun (more, tail) => ((c, c) :: more, tail)

/-- The signs of a pattern. -/
def ofMarked : Nat → List Marked → List Sign
  | 0, _ => []
  | _ + 1, [] => []
  | fuel + 1, (c, quoted) :: rest =>
    if quoted then .one c :: ofMarked fuel rest
    else if c = '\\' then
      match rest with
      | (d, _) :: rest => .one d :: ofMarked fuel rest
      | [] => [.one c]
    else if c = '*' then .any :: ofMarked fuel rest
    else if c = '?' then .anyOne :: ofMarked fuel rest
    else if c = '[' then
      let (negated, body) := match rest with
        | ('!', false) :: body => (true, body)
        | body => (false, body)
      match ranges? (rest.length + 1) true body with
      | some (ranges, tail) => .range negated ranges :: ofMarked fuel tail
      | none => .one c :: ofMarked fuel rest
    else .one c :: ofMarked fuel rest

/-- Does a sign fit a character? -/
def fitsOne (sign : Sign) (c : Char) : Bool :=
  match sign with
  | one d => c = d
  | anyOne | any => true
  | range negated ranges => (ranges.any fun (low, high) => low ≤ c && c ≤ high) != negated

end Sign

/-- Does a pattern fit a text? -/
def fits : List Sign → List Char → Bool
  | [], chars => chars.isEmpty
  | .any :: signs, [] => fits signs []
  | .any :: signs, c :: rest => fits signs (c :: rest) || fits (.any :: signs) rest
  | _ :: _, [] => false
  | sign :: signs, c :: rest => sign.fitsOne c && fits signs rest
termination_by signs chars => signs.length + chars.length

/-- **A pattern without special signs fits one text.** -/
theorem fits_ones_iff (s t : List Char) : fits (s.map Sign.one) t = true ↔ t = s := by
  induction s generalizing t with
  | nil => simp [fits]
  | cons c rest ih =>
    cases t with
    | nil => simp [fits]
    | cons d tail => simp [fits, Sign.fitsOne, ih]

/-- **A star fits every text.** -/
theorem fits_any (t : List Char) : fits [.any] t = true := by
  induction t with
  | nil => simp [fits]
  | cons c rest ih => simp [fits, ih]

/-- The signs of a marked text. -/
def patternOf (marked : List Marked) : List Sign :=
  Sign.ofMarked (marked.length + 1) marked

/-- The text without what a pattern fits at its start: the shortest such part, or the longest.  If
there is none, the text stays as it is. -/
def withoutStart (pattern : List Sign) (longest : Bool) (text : List Char) : List Char :=
  let lengths := List.range (text.length + 1)
  let order := if longest then lengths.reverse else lengths
  match order.find? fun n => fits pattern (text.take n) with
  | some n => text.drop n
  | none => text

/-- The text without what a pattern fits at its end. -/
def withoutEnd (pattern : List Sign) (longest : Bool) (text : List Char) : List Char :=
  let lengths := List.range (text.length + 1)
  let order := if longest then lengths else lengths.reverse
  match order.find? fun n => fits pattern (text.drop n) with
  | some n => text.take n
  | none => text

end WasmCoverage.Shell
