import WasmCoverage.Text.Quoted

/-!
# Texts with unpaired halves

Escapes in JSON name UTF-16 code units, and a text may name one half of a surrogate pair without
the other.  Such a half is no character, but it is kept: a loose text consists of points, each a
character or a half alone.  In quotes a half is shown by its escape; where only characters can
stand, U+FFFD stands for it.

Main statements: `lossy_ofString` and `quoted_ofString`, a text of characters alone is treated as
what it is.
-/

namespace WasmCoverage

open WasmCoverage.Text

/-- Half of a surrogate pair, counted from the first one. -/
abbrev Half := Fin 0x800

/-- The first code unit that is half of a pair. -/
def Half.base : Nat := 0xD800

/-- The code unit of a half. -/
def Half.unit (half : Half) : Nat :=
  Half.base + half.val

/-- A character, or half of a pair alone. -/
inductive Point where
  | char (c : Char)
  | half (h : Half)
  deriving DecidableEq, Repr

/-- The character of a point; U+FFFD stands for a half. -/
def Point.lossy : Point → Char
  | char c => c
  | half _ => '\uFFFD'

/-- A text in which halves of surrogate pairs may stand alone. -/
structure LooseText where
  points : List Point
  deriving DecidableEq, Repr

namespace LooseText

/-- A text of characters. -/
def ofChars (chars : List Char) : LooseText :=
  ⟨chars.map .char⟩

/-- A text of characters. -/
def ofString (s : String) : LooseText :=
  ofChars s.toList

instance : Coe String LooseText := ⟨ofString⟩

/-- The characters of a text; U+FFFD stands for every half. -/
def chars (text : LooseText) : List Char :=
  text.points.map Point.lossy

/-- The text with U+FFFD in the place of every half. -/
def lossy (text : LooseText) : String :=
  String.ofList text.chars

/-- Is the text empty? -/
def isEmpty (text : LooseText) : Bool :=
  text.points.isEmpty

/-- Does the text consist of characters alone? -/
def isProper (text : LooseText) : Bool :=
  text.points.all (· matches .char _)

/-- **A text of characters is not changed.** -/
theorem lossy_ofString (s : String) : (ofString s).lossy = s := by
  simp [lossy, chars, ofString, ofChars, Function.comp_def, Point.lossy]

/-- Texts of characters consist of characters alone. -/
theorem isProper_ofString (s : String) : (ofString s).isProper = true := by
  simp [isProper, ofString, ofChars]

/-! ## In quotes -/

/-- The form of a point between quotes. -/
def quotePoint (mark : Char) : Point → List Char
  | .char c => quoteChar mark c
  | .half h => '\\' :: 'u' :: hexDigits 4 h.unit

/-- The text in quotes. -/
def quoted (text : LooseText) : String :=
  let mark := quoteMark text.chars
  String.ofList (mark :: text.points.flatMap (quotePoint mark) ++ [mark])

/-- **A text of characters is quoted as such.** -/
theorem quoted_ofString (s : String) : (ofString s).quoted = quote s := by
  have chars_eq : (ofString s).chars = s.toList := by
    simp [chars, ofString, ofChars, Function.comp_def, Point.lossy]
  have points_eq (mark : Char) :
      (ofString s).points.flatMap (quotePoint mark) = s.toList.flatMap (quoteChar mark) := by
    simp [ofString, ofChars, List.flatMap_map, quotePoint]
  simp only [quoted, quote, quoteChars, chars_eq, points_eq]

end LooseText

end WasmCoverage
