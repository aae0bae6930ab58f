import WasmCoverage.Artifact.Name
import WasmCoverage.Proofs.Path.Names

/-!
# Directory names are names

What is made of a logical name has kept characters only (`isKept_of_mem_cleaned`), so with a suffix
that does not end in a dot it is the name of an entry of a directory.  So it is without one.
-/

namespace WasmCoverage.Artifact

open WasmCoverage.Text

lemma mem_squeeze_iff {c : Char} : ∀ {text : List Char}, c ∈ squeeze text ↔ c ∈ text
  | [] => Iff.rfl
  | [_] => Iff.rfl
  | a :: b :: rest => by
      have ih : c ∈ squeeze (b :: rest) ↔ c ∈ b :: rest := mem_squeeze_iff
      rw [squeeze]
      split
      · next hab =>
        rw [ih, hab.1, hab.2]
        simp
      · simp [ih]

lemma infix_trimDots (text : List Char) : trimDots text <:+: text := by
  obtain ⟨before, after, heq, -, -⟩ := eq_append_trimWhile (· = '.') text
  exact ⟨before, after, heq.symm⟩

/-- **Every character of a directory name is a kept one.** -/
theorem isKept_of_mem_cleaned {c : Char} {name : List Char} (h : c ∈ cleaned name) :
    isKept c = true := by
  obtain ⟨d, -, rfl⟩ := List.mem_map.1 (mem_squeeze_iff.1 ((infix_trimDots _).mem h))
  split
  · assumption
  · decide

lemma directoryName_eq_ok_iff {name made : String} :
    directoryName name = .ok made ↔ made ≠ "" ∧ made.toList = cleaned name.toList := by
  unfold directoryName
  split
  · next hnil =>
      refine ⟨fun h => (by cases h), fun ⟨hne, heq⟩ => absurd ?_ hne⟩
      rw [hnil] at heq
      simpa using heq
  · next hne =>
      rw [Except.ok.injEq, ← String.toList_inj, String.toList_ofList, eq_comm]
      refine ⟨fun h => ⟨?_, h⟩, fun h => h.2⟩
      rintro rfl
      exact hne (by simpa using h.symm)

lemma isKept_of_directoryName {name made : String} (h : directoryName name = .ok made) :
    ∀ c ∈ made.toList, isKept c = true := by
  intro c hc
  rw [(directoryName_eq_ok_iff.1 h).2] at hc
  exact isKept_of_mem_cleaned hc

lemma not_mem_directoryName {name made : String} {c : Char} (h : directoryName name = .ok made)
    (hc : isKept c = false) : c ∉ made.toList := fun hmem => by
  simp [isKept_of_directoryName h c hmem] at hc

/-- **With a suffix, a directory name is the name of an entry.** -/
theorem isName_of_directoryName {name made suffix : String} {c : Char}
    (h : directoryName name = .ok made) (hslash : '/' ∉ suffix.toList)
    (hlast : lastChar? suffix = some c) (hdot : c ≠ '.') : Path.IsName (made ++ suffix) := by
  refine Path.isName_of_lastChar? ?_ ?_ hdot
  · rw [String.toList_append, List.mem_append, not_or]
    exact ⟨not_mem_directoryName h (by decide), hslash⟩
  · rw [lastChar?_append _ ?_, hlast]
    intro hnil
    rw [lastChar?, hnil] at hlast
    cases hlast

lemma ne_dot_of_getLast?_cleaned {name : List Char} {c : Char}
    (h : (cleaned name).getLast? = some c) : c ≠ '.' := by
  rw [cleaned, trimDots] at h
  simpa using getLast?_trimWhile h

/-- **A directory name is the name of an entry itself**, since it does not end in a dot. -/
theorem isName_directoryName {name made : String} (h : directoryName name = .ok made) :
    Path.IsName made := by
  have hslash : '/' ∉ made.toList := not_mem_directoryName h (by decide)
  obtain ⟨hne, hmade⟩ := directoryName_eq_ok_iff.1 h
  cases hlast : (cleaned name.toList).getLast? with
  | none =>
      rw [List.getLast?_eq_none_iff.1 hlast] at hmade
      exact absurd (by simpa using hmade) hne
  | some c =>
      refine Path.isName_of_lastChar? hslash ?_ (ne_dot_of_getLast?_cleaned hlast)
      rw [lastChar?, hmade, hlast]

end WasmCoverage.Artifact
