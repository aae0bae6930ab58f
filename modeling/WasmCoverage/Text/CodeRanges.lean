/-!
# Sets of characters as ranges of code points

Every class of characters that the rest of the library asks about (blank, word, printable,
decimal digit) is a finite list of closed ranges of code points.  The list is data of the
Unicode standard, version 14; membership is one linear scan.

The main statement is `contains_iff`: a character is in the set exactly when its code point
lies in one of the ranges.
-/

namespace WasmCoverage.Text

/-- A set of characters, as closed ranges of code points. -/
abbrev CodeRanges := List (Nat × Nat)

/-- Is the character's code point in one of the ranges? -/
def CodeRanges.contains (ranges : CodeRanges) (c : Char) : Bool :=
  ranges.any fun range => range.1 ≤ c.toNat && c.toNat ≤ range.2

/-- **Membership is membership in a range.** -/
theorem CodeRanges.contains_iff (ranges : CodeRanges) (c : Char) :
    ranges.contains c = true ↔ ∃ range ∈ ranges, range.1 ≤ c.toNat ∧ c.toNat ≤ range.2 := by
  simp [CodeRanges.contains]

end WasmCoverage.Text
