import Mathlib.Data.List.Basic
import WasmCoverage.Text.Blank

/-!
# Trimmed texts and joined lines

A text that neither begins nor ends with what is trimmed is what trimming leaves of it and of
anything trimmed around it (`trimWhile_append`).

Texts that are joined by line feeds are cut at more places than these: each of them is cut at the
boundaries that it has itself.  A line feed between two texts adds no line but perhaps an empty one
(`lines_append`), and a text without boundaries is one line (`lines_of_forall`).
-/

namespace WasmCoverage.Text

/-! ## Trimming -/

section Trim

variable {α : Type} {test : α → Bool} {l : List α} (hhead : ∀ x ∈ l.head?, test x = false)
  (hlast : ∀ x ∈ l.getLast?, test x = false)

include hhead hlast

/-- **A list that neither begins nor ends with what is trimmed stays as it is.** -/
theorem trimWhile_of_ends : trimWhile test l = l := by
  have hdrop {l : List α} (h : ∀ x ∈ l.head?, test x = false) : l.dropWhile test = l := by
    cases l with
    | nil => rfl
    | cons x rest => exact List.dropWhile_cons_of_neg (by simpa using h x rfl)
  rw [trimWhile, dropEndWhile, hdrop hhead, hdrop (by simpa using hlast), List.reverse_reverse]

/-- **What is trimmed around such a list is lost**, and nothing else. -/
theorem trimWhile_append {before after : List α} (hne : l ≠ [])
    (hbefore : ∀ x ∈ before, test x = true) (hafter : ∀ x ∈ after, test x = true) :
    trimWhile test (before ++ (l ++ after)) = l := by
  obtain ⟨x, rest, rfl⟩ := List.exists_cons_of_ne_nil hne
  have hx : ¬test x = true := by simpa using hhead x rfl
  have hstart : (before ++ (x :: rest ++ after)).dropWhile test = x :: rest ++ after := by
    rw [List.dropWhile_append_of_pos hbefore, List.cons_append, List.dropWhile_cons_of_neg hx]
  have hself := trimWhile_of_ends hhead hlast
  rw [trimWhile, List.dropWhile_cons_of_neg hx] at hself
  rw [trimWhile, hstart, dropEndWhile, List.reverse_append,
    List.dropWhile_append_of_pos (by simpa using hafter)]
  exact hself

end Trim

/-! ## Lines -/

/-- Where a text ends, its lines go on with those of the next one. -/
lemma linesFrom_append (line text rest : List Char) :
    ∃ extra, (∀ l ∈ extra, l = []) ∧
      linesFrom line (text ++ '\n' :: rest) = linesFrom line text ++ (extra ++ lines rest) := by
  fun_induction linesFrom line text with
  | case1 line hempty =>
    obtain rfl := List.isEmpty_iff.1 hempty
    exact ⟨[[]], by simp, rfl⟩
  | case2 line hempty => exact ⟨[], by simp, rfl⟩
  | case3 line text ih =>
    obtain ⟨extra, hextra, heq⟩ := ih
    exact ⟨extra, hextra, by simpa [linesFrom] using heq⟩
  | case4 line c text hpair hend ih =>
    by_cases hreturn : c = '\r' ∧ text = []
    · -- the line feed belongs to the boundary
      obtain ⟨rfl, rfl⟩ := hreturn
      exact ⟨[], by simp, rfl⟩
    · obtain ⟨extra, hextra, heq⟩ := ih
      refine ⟨extra, hextra, ?_⟩
      rw [List.cons_append, linesFrom, if_pos hend, heq, List.cons_append]
      rintro rest' rfl heq
      cases text with
      | nil => exact hreturn ⟨rfl, rfl⟩
      | cons d text => exact hpair text rfl (by rw [(List.cons.inj heq).1])
  | case5 line c text hpair hend ih =>
    obtain ⟨extra, hextra, heq⟩ := ih
    refine ⟨extra, hextra, ?_⟩
    rw [List.cons_append, linesFrom, if_neg hend, heq]
    rintro rest' rfl -
    exact hend (by decide)

/-- **A line feed between two texts adds no line** but perhaps an empty one. -/
theorem lines_append (text rest : List Char) : ∃ extra, (∀ l ∈ extra, l = []) ∧
    lines (text ++ '\n' :: rest) = lines text ++ (extra ++ lines rest) :=
  linesFrom_append [] text rest

lemma linesFrom_of_forall : ∀ {text : List Char}, (∀ c ∈ text, isLineEnd c = false) →
    ∀ line, linesFrom line text = linesFrom (text.reverse ++ line) []
  | [], _, _ => rfl
  | c :: text, h, line => by
      have hc : ¬isLineEnd c = true := by simpa using h c List.mem_cons_self
      have hstep : linesFrom line (c :: text) = linesFrom (c :: line) text := by
        rw [linesFrom, if_neg hc]
        rintro rest rfl -
        exact hc (by decide)
      rw [hstep, linesFrom_of_forall fun d hd => h d (List.mem_cons_of_mem c hd)]
      simp

/-- **A text without boundaries is one line**, if it is not empty. -/
theorem lines_of_forall {text : List Char} (hne : text ≠ []) (h : ∀ c ∈ text, isLineEnd c = false) :
    lines text = [text] := by
  rw [lines, linesFrom_of_forall h, linesFrom]
  simp [hne]

end WasmCoverage.Text
