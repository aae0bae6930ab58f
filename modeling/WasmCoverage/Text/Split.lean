/-!
# Cutting a list at a separator, and joining it again

`splitOn` keeps every piece, the empty ones too, and `joinWith` is its inverse.  The library cuts
paths at `/`, configuration keys at `.` and text at line feeds with it.

Main statement: `joinWith_splitOn`, nothing is lost.
-/

namespace WasmCoverage.Text

variable {α : Type} [DecidableEq α]

/-- The pieces between separators; a list without a separator is one piece. -/
def splitOn (separator : α) : List α → List (List α)
  | [] => [[]]
  | x :: rest =>
    if x = separator then [] :: splitOn separator rest
    else
      match splitOn separator rest with
      | [] => [[x]]
      | piece :: pieces => (x :: piece) :: pieces

/-- The pieces with the separator between neighbours. -/
def joinWith (separator : α) : List (List α) → List α
  | [] => []
  | [piece] => piece
  | piece :: pieces => piece ++ separator :: joinWith separator pieces

/-- There is always a first piece. -/
theorem splitOn_ne_nil (separator : α) (l : List α) : splitOn separator l ≠ [] := by
  cases l with
  | nil => simp [splitOn]
  | cons x rest =>
    simp only [splitOn]
    split
    · simp
    · split <;> simp

/-- **Nothing is lost.** -/
theorem joinWith_splitOn (separator : α) (l : List α) :
    joinWith separator (splitOn separator l) = l := by
  induction l with
  | nil => rfl
  | cons x rest ih =>
    simp only [splitOn]
    split
    · next h =>
      subst h
      match hs : splitOn x rest with
      | [] => exact absurd hs (splitOn_ne_nil x rest)
      | piece :: pieces => rw [hs] at ih; simp [joinWith, ih]
    · match hs : splitOn separator rest with
      | [] => exact absurd hs (splitOn_ne_nil separator rest)
      | [piece] => rw [hs] at ih; simpa [joinWith] using ih
      | piece :: next :: pieces => rw [hs] at ih; simpa [joinWith] using ih

/-- No piece holds the separator. -/
theorem not_mem_of_mem_splitOn {separator : α} {l piece : List α}
    (h : piece ∈ splitOn separator l) : separator ∉ piece := by
  induction l generalizing piece with
  | nil => simp_all [splitOn]
  | cons x rest ih =>
    simp only [splitOn] at h
    split at h
    · rcases List.mem_cons.1 h with rfl | h
      · simp
      · exact ih h
    · next hx =>
      match hs : splitOn separator rest with
      | [] => exact absurd hs (splitOn_ne_nil separator rest)
      | first :: others =>
        rw [hs] at h ih
        rcases List.mem_cons.1 h with rfl | h
        · simp only [List.mem_cons, not_or]
          exact ⟨fun e => hx e.symm, ih (by simp)⟩
        · exact ih (by simp [h])

/-! ## The same on text -/

/-- The pieces of a text between separators. -/
def splitText (separator : Char) (text : String) : List String :=
  (splitOn separator text.toList).map String.ofList

/-- The texts with the separator between neighbours. -/
def joinText (separator : String) : List String → String
  | [] => ""
  | [piece] => piece
  | piece :: pieces => piece ++ separator ++ joinText separator pieces

end WasmCoverage.Text
