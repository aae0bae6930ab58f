/-!
# Where one list occurs in another

A list occurs in another if it is a stretch of it.  Texts are searched for words in this way, and
files for markers.

Main statement: `occursIn_iff`, the search finds exactly the stretches.
-/

namespace WasmCoverage.Text

variable {α : Type} [BEq α]

/-- Does one list occur in another? -/
def occursIn (part : List α) : List α → Bool
  | [] => part.isEmpty
  | x :: rest => part.isPrefixOf (x :: rest) || occursIn part rest

/-- **The search finds exactly the stretches.** -/
theorem occursIn_iff [LawfulBEq α] {part l : List α} : occursIn part l = true ↔ part <:+: l := by
  induction l with
  | nil => simp [occursIn]
  | cons x rest ih => simp [occursIn, ih, List.infix_cons_iff]

/-- Does one text occur in another? -/
def textOccursIn (part text : String) : Bool :=
  occursIn part.toList text.toList

end WasmCoverage.Text
