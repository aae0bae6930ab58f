import WasmCoverage.Proofs.Ir.Layout

/-!
# Lists of lines that are the lines of a text

`toLines` cuts a text after each line feed.  The lists that it answers with are those in which every
line but the last is `Complete`, that is, has its line feed and no other, and the last is a
`Fragment`: complete, or not empty and without a line feed.  `isLines_toLines` and
**`toLines_flatten`** say this in both directions; with the second, a text that is put together
from lines is known to have just these lines.
-/

namespace WasmCoverage.Ir

open WasmCoverage.Text

/-- The glyph that ends a line. -/
abbrev lineFeed : Glyph := .char '\n'

namespace Line

/-- A line with its line feed. -/
def Complete (line : Line) : Prop :=
  ∃ content, line = content ++ [lineFeed] ∧ lineFeed ∉ content

/-- A line that may be the last of a text: the line feed may be missing. -/
def Fragment (line : Line) : Prop :=
  line.Complete ∨ line ≠ [] ∧ lineFeed ∉ line

lemma Complete.fragment {line : Line} (h : line.Complete) : line.Fragment := Or.inl h

lemma Fragment.ne_nil {line : Line} : line.Fragment → line ≠ []
  | Or.inl ⟨content, hline, _⟩ => by simp [hline]
  | Or.inr h => h.1

/-- A line feed can only be the last glyph. -/
lemma Fragment.not_mem_take {line : Line} {k : Nat} (h : line.Fragment) (hk : k < line.length) :
    lineFeed ∉ line.take k := by
  rcases h with ⟨content, rfl, hc⟩ | ⟨_, hl⟩
  · rw [List.take_append_of_le_length (by simp at hk; omega)]
    exact fun hmem => hc (List.mem_of_mem_take hmem)
  · exact fun hmem => hl (List.mem_of_mem_take hmem)

lemma Complete.drop {line : Line} {k : Nat} (h : line.Complete) (hk : k < line.length) :
    Complete (line.drop k) := by
  obtain ⟨content, rfl, hc⟩ := h
  refine ⟨content.drop k, ?_, fun hmem => hc (List.mem_of_mem_drop hmem)⟩
  rw [List.drop_append_of_le_length (by simp at hk; omega)]

lemma Fragment.drop {line : Line} {k : Nat} (h : line.Fragment) (hk : k < line.length) :
    Fragment (line.drop k) := by
  rcases h with h | ⟨_, hl⟩
  · exact (h.drop hk).fragment
  · refine Or.inr ⟨?_, fun hmem => hl (List.mem_of_mem_drop hmem)⟩
    simpa using hk

end Line

/-- Every line but the last is complete, and the last is a fragment. -/
def IsLines : List Line → Prop
  | [] => True
  | [line] => line.Fragment
  | line :: rest => line.Complete ∧ IsLines rest

lemma isLines_append {b : List Line} (hb : b ≠ []) :
    ∀ {a : List Line}, IsLines (a ++ b) ↔ (∀ line ∈ a, line.Complete) ∧ IsLines b
  | [] => by simp
  | line :: a => by
      obtain ⟨next, others, hcons⟩ :=
        List.exists_cons_of_ne_nil (List.append_ne_nil_of_right_ne_nil a hb)
      rw [List.cons_append, List.forall_mem_cons, and_assoc, ← isLines_append hb, hcons]
      rfl

/-- A glyph that is no line feed goes in front of the first line. -/
lemma toLines_cons {g : Glyph} {text : List Glyph} {line : Line} {lines : List Line}
    (hg : g ≠ lineFeed) (h : toLines text = line :: lines) :
    toLines (g :: text) = (g :: line) :: lines := by
  simp only [toLines, hg, if_false, h]

/-- **The lines of a text.** -/
theorem isLines_toLines (text : List Glyph) : IsLines (toLines text) := by
  induction text with
  | nil => trivial
  | cons g rest ih =>
      simp only [toLines]
      split
      · next hg =>
          subst hg
          have hfeed : Line.Complete [lineFeed] := ⟨[], rfl, by simp⟩
          cases hrest : toLines rest with
          | nil => exact hfeed.fragment
          | cons line lines => exact ⟨hfeed, hrest ▸ ih⟩
      · next hg =>
          split
          · exact Or.inr ⟨by simp, by simpa using Ne.symm hg⟩
          · next line lines hrest =>
              rw [hrest] at ih
              have complete (h : line.Complete) : Line.Complete (g :: line) := by
                obtain ⟨content, rfl, hc⟩ := h
                exact ⟨g :: content, rfl, by simpa [Ne.symm hg] using hc⟩
              cases lines with
              | nil =>
                  rcases ih with h | ⟨_, hl⟩
                  · exact (complete h).fragment
                  · exact Or.inr ⟨by simp, by simpa [Ne.symm hg] using hl⟩
              | cons next others => exact ⟨complete ih.1, ih.2⟩

lemma toLines_of_not_mem {line : Line} (hne : line ≠ []) (h : lineFeed ∉ line) :
    toLines line = [line] := by
  induction line with
  | nil => exact absurd rfl hne
  | cons g rest ih =>
      rw [List.mem_cons, not_or] at h
      cases rest with
      | nil => simp [toLines, Ne.symm h.1]
      | cons next others => exact toLines_cons (Ne.symm h.1) (ih (by simp) h.2)

/-- A complete line in front of a text is its first line. -/
lemma toLines_complete_append {line : Line} (h : line.Complete) (text : List Glyph) :
    toLines (line ++ text) = line :: toLines text := by
  obtain ⟨content, rfl, hc⟩ := h
  induction content with
  | nil => simp [toLines]
  | cons g content ih =>
      rw [List.mem_cons, not_or] at hc
      exact toLines_cons (Ne.symm hc.1) (ih hc.2)

/-- **A text put together from lines has these lines.** -/
theorem toLines_flatten : ∀ {lines : List Line}, IsLines lines → toLines lines.flatten = lines
  | [], _ => rfl
  | [line], h => by
      rcases h with h | ⟨hne, hl⟩
      · rw [List.flatten_singleton, ← List.append_nil line, toLines_complete_append h]
        simp [toLines]
      · rw [List.flatten_singleton, toLines_of_not_mem hne hl]
  | line :: next :: others, h => by
      rw [List.flatten_cons, toLines_complete_append h.1, toLines_flatten h.2]

end WasmCoverage.Ir
