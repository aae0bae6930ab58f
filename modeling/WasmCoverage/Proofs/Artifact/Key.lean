import WasmCoverage.Proofs.Artifact.Name
import WasmCoverage.Proofs.Text.Lines

/-!
# Keys of directory names

Two rules act on a logical name.  The directory name that is made of it is meant to be compared
with other names by its key.  **`logicalKey_directoryName_iff`** says how far that goes: a directory
name has the key of the name that it was made of only if it is that name.

So the rules agree exactly on the names that stay as they are.  A name of kept characters does, if
no two underscores are next to each other and no dot is at either end
(`directoryName_eq_self_iff`).
-/

namespace WasmCoverage.Artifact

open WasmCoverage.Text

/-! ## Names of kept characters -/

lemma isBlank_of_isKept {c : Char} (h : isKept c = true) : isBlank c = false := by
  delta isKept Char.isAlphanum Char.isAlpha Char.isUpper Char.isLower Char.isDigit at h
  simp only [Bool.or_eq_true, Bool.and_eq_true, decide_eq_true_eq, ge_iff_le,
    UInt32.le_iff_toNat_le] at h
  change (((((65 ≤ c.toNat ∧ c.toNat ≤ 90) ∨ (97 ≤ c.toNat ∧ c.toNat ≤ 122)) ∨
    (48 ≤ c.toNat ∧ c.toNat ≤ 57)) ∨ c = '.') ∨ c = '_') ∨ c = '-' at h
  rcases h with (((h | rfl) | rfl) | rfl)
  · simp only [isBlank, blankRanges, CodeRanges.contains, List.any_cons, List.any_nil,
      Bool.or_false, Bool.or_eq_false_iff, Bool.and_eq_false_iff, decide_eq_false_iff_not]
    omega
  all_goals decide

lemma wordsFrom_of_forall : ∀ {text word : List Char}, (∀ c ∈ text, isBlank c = false) →
    word ≠ [] → wordsFrom word text = [word.reverse ++ text]
  | [], word, _, hword => by simp [wordsFrom, hword]
  | c :: rest, word, h, _ => by
      rw [List.forall_mem_cons] at h
      rw [wordsFrom, if_neg (by simp [h.1]), wordsFrom_of_forall h.2 (List.cons_ne_nil _ _)]
      simp

/-- A text without blanks is one word. -/
lemma joinWith_words {text : List Char} (h : ∀ c ∈ text, isBlank c = false) :
    joinWith '_' (words text) = text := by
  rw [words]
  cases text with
  | nil => rfl
  | cons c rest =>
      rw [List.forall_mem_cons] at h
      rw [wordsFrom, if_neg (by simp [h.1]), wordsFrom_of_forall h.2 (by simp)]
      rfl

lemma joinWords_of_kept {name : List Char} (h : ∀ c ∈ name, isKept c = true) :
    joinWords name = name := by
  have hblank (c : Char) (hc : c ∈ name) : isBlank c = false := isBlank_of_isKept (h c hc)
  have hslash : name.map (fun c => if c = '/' ∨ c = '\\' then '_' else c) = name := by
    refine (List.map_congr_left fun c hc => if_neg ?_).trans (List.map_id' name)
    rintro (rfl | rfl)
    · exact absurd (h _ hc) (by decide)
    · exact absurd (h _ hc) (by decide)
  have htrim : trimChars name = name :=
    trimWhile_of_ends (fun c hc => hblank c (List.mem_of_head? hc))
      fun c hc => hblank c (List.mem_of_getLast? hc)
  rw [joinWords, htrim, hslash, joinWith_words hblank]

/-- Of a name of kept characters nothing but underscores and dots is left out. -/
lemma cleaned_of_kept {name : List Char} (h : ∀ c ∈ name, isKept c = true) :
    cleaned name = trimDots (squeeze name) := by
  have hkept : name.map (fun c => if isKept c then c else '_') = name :=
    (List.map_congr_left fun c hc => if_pos (h c hc)).trans (List.map_id' name)
  rw [cleaned, joinWords_of_kept h, hkept]

lemma squeeze_sublist : ∀ text : List Char, (squeeze text).Sublist text
  | [] => List.Sublist.refl _
  | [_] => List.Sublist.refl _
  | a :: b :: rest => by
      rw [squeeze]
      split
      · exact (squeeze_sublist (b :: rest)).cons _
      · exact (squeeze_sublist (b :: rest)).cons_cons _

/-! ## Names that stay as they are -/

lemma squeeze_eq_self_iff : ∀ {text : List Char}, squeeze text = text ↔ ¬ ['_', '_'] <:+: text
  | [] => by simp [squeeze]
  | [c] => by
      simp only [squeeze, true_iff]
      exact fun h => absurd h.length_le (by simp)
  | a :: b :: rest => by
      have ih : squeeze (b :: rest) = b :: rest ↔ ¬ ['_', '_'] <:+: b :: rest :=
        squeeze_eq_self_iff
      rw [squeeze, List.infix_cons_iff, not_or, ← ih]
      split
      · next hab =>
          obtain ⟨rfl, rfl⟩ := hab
          refine iff_of_false (fun h => ?_) fun h => h.1 (by simp)
          exact absurd (h ▸ (squeeze_sublist ('_' :: rest)).length_le) (by simp)
      · next hab =>
          have hfirst : ¬ ['_', '_'] <+: a :: b :: rest := by
            simpa [eq_comm] using hab
          simp [hfirst]

lemma trimDots_eq_self_iff {text : List Char} :
    trimDots text = text ↔ text.head? ≠ some '.' ∧ text.getLast? ≠ some '.' := by
  constructor
  · intro h
    constructor
    · intro hhead
      rw [← h] at hhead
      simpa using head?_trimWhile hhead
    · intro hlast
      rw [← h] at hlast
      simpa using getLast?_trimWhile hlast
  · rintro ⟨hhead, hlast⟩
    refine trimWhile_of_ends (fun c hc => ?_) fun c hc => ?_
    · exact decide_eq_false fun heq => hhead (heq ▸ hc)
    · exact decide_eq_false fun heq => hlast (heq ▸ hc)

/-- **A name stays as it is** if it is made of kept characters, no two underscores are next to each
other and no dot is at either end. -/
theorem directoryName_eq_self_iff {name : String} : directoryName name = .ok name ↔
    name ≠ "" ∧ (∀ c ∈ name.toList, isKept c = true) ∧ ¬ ['_', '_'] <:+: name.toList ∧
      name.toList.head? ≠ some '.' ∧ name.toList.getLast? ≠ some '.' := by
  rw [directoryName_eq_ok_iff, eq_comm (a := name.toList)]
  refine and_congr_right fun _ => ?_
  constructor
  · intro h
    have hkept (c : Char) (hc : c ∈ name.toList) : isKept c = true :=
      isKept_of_mem_cleaned (h ▸ hc)
    rw [cleaned_of_kept hkept] at h
    have hsqueeze : squeeze name.toList = name.toList := by
      refine (squeeze_sublist _).eq_of_length_le ?_
      calc name.toList.length = (trimDots (squeeze name.toList)).length := by rw [h]
        _ ≤ (squeeze name.toList).length := (infix_trimDots _).length_le
    rw [hsqueeze] at h
    exact ⟨hkept, squeeze_eq_self_iff.1 hsqueeze, trimDots_eq_self_iff.1 h⟩
  · rintro ⟨hkept, hsqueeze, hdots⟩
    rw [cleaned_of_kept hkept, squeeze_eq_self_iff.2 hsqueeze, trimDots_eq_self_iff.2 hdots]

/-! ## Keys -/

/-- A character as it stands in keys. -/
def keyChar (c : Char) : Char :=
  if c = '-' then '_' else c

lemma logicalKey_eq_iff {a b : String} :
    logicalKey a = logicalKey b ↔ a.toList.map keyChar = b.toList.map keyChar := by
  rw [logicalKey, logicalKey, String.ofList_inj]
  rfl

/-- What has the key of a kept character is kept. -/
lemma isKept_of_keyChar {c d : Char} (h : keyChar c = keyChar d) (hd : isKept d = true) :
    isKept c = true := by
  unfold keyChar at h
  split at h
  · next hc => exact hc ▸ by decide
  · split at h
    · exact h ▸ by decide
    · exact h ▸ hd

/-- **A directory name has the key of its logical name only if it is that name.** -/
theorem logicalKey_directoryName_iff {name made : String} (h : directoryName name = .ok made) :
    logicalKey made = logicalKey name ↔ made = name := by
  refine ⟨fun hkey => ?_, fun heq => heq ▸ rfl⟩
  rw [logicalKey_eq_iff] at hkey
  have hkept (c : Char) (hc : c ∈ name.toList) : isKept c = true := by
    have hmem : keyChar c ∈ made.toList.map keyChar := hkey ▸ List.mem_map_of_mem hc
    obtain ⟨d, hd, heq⟩ := List.mem_map.1 hmem
    exact isKept_of_keyChar heq.symm (isKept_of_directoryName h d hd)
  have hlength : made.toList.length = name.toList.length := by
    simpa using congrArg List.length hkey
  -- what is made of kept characters is a part of them, and no shorter
  have hsublist : made.toList.Sublist name.toList := by
    rw [(directoryName_eq_ok_iff.1 h).2, cleaned_of_kept hkept]
    exact (infix_trimDots _).sublist.trans (squeeze_sublist _)
  exact String.toList_inj.1 (hsublist.eq_of_length hlength)

end WasmCoverage.Artifact
