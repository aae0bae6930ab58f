/-!
# Trimming a list

What is trimmed is the longest stretch at an end whose elements all pass a test.

Main statements: `eq_append_trimWhile`, only elements that pass the test are lost, and
`head?_trimWhile` and `getLast?_trimWhile`, what is left neither begins nor ends with one.
-/

namespace WasmCoverage.Text

variable {α : Type}

/-- The list without the elements at its end that pass a test. -/
def dropEndWhile (test : α → Bool) (l : List α) : List α :=
  (l.reverse.dropWhile test).reverse

/-- The list without the elements at both ends that pass a test. -/
def trimWhile (test : α → Bool) (l : List α) : List α :=
  dropEndWhile test (l.dropWhile test)

/-- Only elements that pass the test are lost at the end. -/
theorem eq_append_dropEndWhile (test : α → Bool) (l : List α) :
    ∃ after, l = dropEndWhile test l ++ after ∧ ∀ x ∈ after, test x = true := by
  refine ⟨(l.reverse.takeWhile test).reverse, ?_, ?_⟩
  · rw [dropEndWhile, ← List.reverse_append, List.takeWhile_append_dropWhile, List.reverse_reverse]
  · intro x hx
    exact List.all_eq_true.1 List.all_takeWhile x (List.mem_reverse.1 hx)

/-- What is left does not end with an element that passes the test. -/
theorem getLast?_dropEndWhile {test : α → Bool} {l : List α} {x : α}
    (h : (dropEndWhile test l).getLast? = some x) : test x = false := by
  rw [dropEndWhile, List.getLast?_reverse] at h
  have := List.head?_dropWhile_not test l.reverse
  rw [h] at this
  simpa using this

/-- **Only elements that pass the test are lost.** -/
theorem eq_append_trimWhile (test : α → Bool) (l : List α) :
    ∃ before after, l = before ++ trimWhile test l ++ after ∧
      (∀ x ∈ before, test x = true) ∧ ∀ x ∈ after, test x = true := by
  obtain ⟨after, h, passed⟩ := eq_append_dropEndWhile test (l.dropWhile test)
  have dropped : ∀ x ∈ l.takeWhile test, test x = true :=
    List.all_eq_true.1 List.all_takeWhile
  refine ⟨l.takeWhile test, after, ?_, dropped, passed⟩
  rw [trimWhile, List.append_assoc, ← h, List.takeWhile_append_dropWhile]

/-- **What is left does not end with an element that passes the test.** -/
theorem getLast?_trimWhile {test : α → Bool} {l : List α} {x : α}
    (h : (trimWhile test l).getLast? = some x) : test x = false :=
  getLast?_dropEndWhile h

/-- **What is left does not begin with an element that passes the test.** -/
theorem head?_trimWhile {test : α → Bool} {l : List α} {x : α}
    (h : (trimWhile test l).head? = some x) : test x = false := by
  obtain ⟨after, split, _⟩ := eq_append_dropEndWhile test (l.dropWhile test)
  have first : (l.dropWhile test).head? = some x := by
    rw [split, List.head?_append]
    exact Option.or_eq_some_iff.2 (.inl h)
  have := List.head?_dropWhile_not test l
  rw [first] at this
  simpa using this

end WasmCoverage.Text
