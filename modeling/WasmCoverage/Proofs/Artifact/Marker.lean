import Mathlib.Tactic.Lemma
import WasmCoverage.Artifact.Marker

/-!
# The search in chunks is a search

Reading a file in chunks, the search never sees it whole.  It sees windows: a chunk, and before it
the end of what was read earlier, which is too short to hold the marker.  **`search_eq_ok_iff`**
says that nothing is missed and nothing is made up: a search that can begin answers whether the
marker is a stretch of the file, whatever the length of the chunks.

The loop carries one invariant: the marker is in none of the windows so far.  So a marker that
ends later begins among the last octets of the window, fewer than it has itself
(`infix_lastOctets_append`), and what was read before them can be forgotten.
-/

namespace WasmCoverage.Marker

open WasmCoverage.Text

variable {marker window tail rest data : Octets} {count : Nat} {asked : Int}

/-! ## What the end of a window keeps -/

lemma lastOctets_suffix (count : Nat) (window : Octets) : lastOctets count window <:+ window :=
  List.drop_suffix _ _

lemma length_lastOctets (count : Nat) (window : Octets) :
    (lastOctets count window).length = min count window.length := by
  rw [lastOctets, List.length_drop]
  omega

/-- A suffix of a window that is no longer than its end is a suffix of that end. -/
lemma suffix_lastOctets {part : Octets} (hpart : part <:+ window) (hlength : part.length ≤ count) :
    part <:+ lastOctets count window := by
  refine List.suffix_of_suffix_length_le hpart (lastOctets_suffix count window) ?_
  rw [length_lastOctets]
  exact Nat.le_min.2 ⟨hlength, hpart.length_le⟩

/-- **What is read later is searched with the end of a window as well as with all of it**, if the
marker is not in the window. -/
theorem infix_lastOctets_append (hwindow : ¬ marker <:+: window) :
    marker <:+: lastOctets (marker.length - 1) window ++ rest ↔ marker <:+: window ++ rest := by
  constructor
  · intro hlast
    have hsuffix := lastOctets_suffix (marker.length - 1) window
    exact hlast.trans (List.suffix_append_self_iff.2 hsuffix).isInfix
  · intro hall
    rcases List.infix_append_iff_ne_nil.1 hall with
      hin | hlater | ⟨front, back, -, hback, hsplit, hfront, hprefix⟩
    · exact absurd hin hwindow
    · exact List.infix_append_of_infix_right hlater
    · have hlength : front.length ≤ marker.length - 1 := by
        have := List.length_pos_iff.2 hback
        rw [hsplit, List.length_append]
        omega
      exact List.infix_append_iff.2 (Or.inr (Or.inr
        ⟨front, back, hsplit, suffix_lastOctets hfront hlength, hprefix⟩))

/-! ## The loop -/

/-- **The loop finds what is left to find.**  The tail is too short for the marker, so an
occurrence ends in the octets still to be read. -/
theorem scan_eq_true_iff {more : Nat} (htail : tail.length < marker.length) :
    scan marker more tail rest = true ↔ marker <:+: tail ++ rest := by
  induction tail, rest using scan.induct marker more with
  | case1 tail =>
      rw [scan, List.append_nil]
      exact iff_of_false (by simp) fun h => absurd h.length_le (by omega)
  | case2 tail octet others window ih =>
      have hread : window ++ others.drop more = tail ++ octet :: others := by
        rw [show window = tail ++ octet :: others.take more from rfl, List.append_assoc,
          List.cons_append, List.take_append_drop]
      rw [scan, Bool.or_eq_true, occursIn_iff, ← hread]
      change marker <:+: window ∨ scan marker more (lastOctets (marker.length - 1) window)
        (others.drop more) = true ↔ _
      by_cases hwindow : marker <:+: window
      · exact iff_of_true (Or.inl hwindow) (List.infix_append_of_infix_left hwindow)
      · have hlast := length_lastOctets (marker.length - 1) window
        rw [ih (by omega), infix_lastOctets_append hwindow]
        exact or_iff_right_of_imp fun h => absurd h hwindow

/-! ## The search -/

/-- **A search in chunks is a search.**  It answers exactly if there is a marker and a chunk can be
read at all, and then it says whether the marker is a stretch of the file. -/
theorem search_eq_ok_iff {found : Bool} : search marker asked data = .ok found ↔
    marker ≠ [] ∧ chunkLength marker asked ≤ readLimit ∧ (found = true ↔ marker <:+: data) := by
  unfold search
  by_cases hmarker : marker = []
  · simp [hmarker]
  by_cases hlong : readLimit < chunkLength marker asked
  · simp [hmarker, hlong, Nat.not_le.2 hlong]
  have hscan : scan marker (chunkLength marker asked - 1) [] data = true ↔ marker <:+: data :=
    scan_eq_true_iff (List.length_pos_iff.2 hmarker)
  rw [if_neg hmarker, if_neg hlong, Except.ok.injEq, Bool.eq_iff_iff, hscan]
  simp [hmarker, Nat.not_lt.1 hlong, iff_comm]

/-- Where there is memory for a chunk, it does not matter how much there is. -/
theorem searchWithin_of_le {memory : Nat} (h : chunkLength marker asked ≤ memory) :
    searchWithin memory marker asked data = search marker asked data := by
  unfold searchWithin
  cases search marker asked data with
  | ok found => exact if_neg (Nat.not_lt.2 h)
  | error fault => rfl

/-- **A chunk can be too long to be read.**  Then there is no answer, though the marker is there. -/
theorem not_search_of_long_chunk :
    [98] <:+: [98] ∧ search [98] 1000000000000000000000000000000 [98] = .error .chunkTooLong :=
  ⟨List.infix_rfl, rfl⟩

end WasmCoverage.Marker
