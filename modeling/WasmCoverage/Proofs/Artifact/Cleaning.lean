import WasmCoverage.Proofs.Artifact.Key
import WasmCoverage.Proofs.Workspace

/-!
# What becomes of a logical name

A directory name is made of a logical name by one pass after another.  Each of them could undo what
an earlier one did, so every property of the result is followed to the end: it has kept characters
only, no two underscores next to each other and no dot at either end (`isMade_of_directoryName`).

Nothing but dots and the blanks around them is ever lost completely (`cleaned_eq_nil_iff`).  A blank
inside becomes an underscore, and so does a character that is not kept, so only a name whose part
between the blanks is all dots has no directory name.

Letters, digits and dashes always stay, in their order (`filter_isLasting_cleaned`).  Dots may be
left out at either end, and every other character is an underscore or becomes one.

Main statement: **`directoryName_exact`**, which names stay as they are, which are refused, and what
is made of the others.
-/

namespace WasmCoverage.Artifact

open WasmCoverage.Text

/-! ## Words -/

/-- A blank ends a word, or stands between words. -/
lemma wordsFrom_append {b : Char} (hb : isBlank b = true) (after : List Char) :
    ∀ (word before : List Char),
      wordsFrom word (before ++ b :: after) = wordsFrom word before ++ words after
  | word, [] => by
      cases word with
      | nil => simp [wordsFrom, hb, words]
      | cons c rest => simp [wordsFrom, hb, words]
  | word, c :: rest => by
      rw [List.cons_append, wordsFrom, wordsFrom]
      split
      · split
        · exact wordsFrom_append hb after [] rest
        · rw [wordsFrom_append hb after [] rest, List.cons_append]
      · exact wordsFrom_append hb after (c :: word) rest

lemma wordsFrom_ne_nil : ∀ {word text : List Char}, word ≠ [] ∨ (∃ c ∈ text, isBlank c = false) →
    wordsFrom word text ≠ []
  | word, [], h => by
      have hword : word ≠ [] := h.resolve_right (by simp)
      simp [wordsFrom, hword]
  | word, c :: rest, h => by
      rw [wordsFrom]
      split
      · next hblank =>
        split
        · next hempty =>
          -- the character that is not blank is still to come
          obtain ⟨d, hd, hdark⟩ := h.resolve_left fun hne => hne (List.isEmpty_iff.1 hempty)
          refine wordsFrom_ne_nil (Or.inr ⟨d, (List.mem_cons.1 hd).resolve_left ?_, hdark⟩)
          rintro rfl
          simp [hblank] at hdark
        · exact List.cons_ne_nil _ _
      · exact wordsFrom_ne_nil (Or.inl (List.cons_ne_nil _ _))

lemma mem_joinWith {α : Type} [DecidableEq α] {separator : α} {bs : List (List α)} (hbs : bs ≠ []) :
    ∀ {as : List (List α)}, as ≠ [] → separator ∈ joinWith separator (as ++ bs)
  | [a], _ => by
      obtain ⟨b, rest, rfl⟩ := List.exists_cons_of_ne_nil hbs
      simp [joinWith]
  | a :: b :: rest, _ => by
      rw [List.cons_append, List.cons_append, joinWith.eq_3 _ _ _ (by simp)]
      simp

/-- **A blank inside a text becomes an underscore.** -/
theorem underscore_mem_joinWith {text : List Char} (hhead : ∀ c ∈ text.head?, isBlank c = false)
    (hlast : ∀ c ∈ text.getLast?, isBlank c = false) {b : Char} (hmem : b ∈ text)
    (hb : isBlank b = true) : '_' ∈ joinWith '_' (words text) := by
  obtain ⟨before, after, rfl⟩ := List.append_of_mem hmem
  rw [words, wordsFrom_append hb]
  refine mem_joinWith (wordsFrom_ne_nil (Or.inr ?_)) (wordsFrom_ne_nil (Or.inr ?_))
  · cases hlast' : after.getLast? with
    | none =>
      rw [List.getLast?_eq_none_iff.1 hlast'] at hlast
      simp [hb] at hlast
    | some c =>
      refine ⟨c, List.mem_of_getLast? hlast', hlast c ?_⟩
      simp [List.getLast?_append, List.getLast?_cons, hlast']
  · cases before with
    | nil => simp [hb] at hhead
    | cons c rest => exact ⟨c, List.mem_cons_self, hhead c rfl⟩

/-! ## Dots -/

lemma trimWhile_eq_nil_iff {α : Type} {test : α → Bool} {l : List α} :
    trimWhile test l = [] ↔ ∀ x ∈ l, test x = true := by
  obtain ⟨before, after, heq, hbefore, hafter⟩ := eq_append_trimWhile test l
  constructor
  · intro hnil
    rw [hnil, List.append_nil] at heq
    rw [heq]
    exact List.forall_mem_append.2 ⟨hbefore, hafter⟩
  · intro hall
    by_contra hne
    obtain ⟨x, rest, hx⟩ := List.exists_cons_of_ne_nil hne
    have hfalse : test x = false := head?_trimWhile (l := l) (by rw [hx]; rfl)
    have hmem : x ∈ l := by
      rw [heq, hx]
      simp
    simp [hall x hmem] at hfalse

/-- Blanks around a name do not matter. -/
lemma joinWords_trimChars (name : List Char) : joinWords (trimChars name) = joinWords name := by
  have htrim : trimChars (trimChars name) = trimChars name :=
    trimWhile_of_ends (fun _ hc => head?_trimWhile hc) fun _ hc => getLast?_trimWhile hc
  rw [joinWords, joinWords, htrim]

/-- A separator of paths, as it stands in words. -/
def unseparated (c : Char) : Char :=
  if c = '/' ∨ c = '\\' then '_' else c

lemma isBlank_unseparated {c : Char} (h : isBlank c = false) : isBlank (unseparated c) = false := by
  unfold unseparated
  split
  · decide
  · exact h

/-- **Words joined are all dots only if there was one word of dots.** -/
theorem forall_joinWords_iff {name : List Char} :
    (∀ c ∈ joinWords name, c = '.') ↔ ∀ c ∈ trimChars name, c = '.' := by
  constructor
  · intro hdots
    change ∀ c ∈ joinWith '_' (words ((trimChars name).map unseparated)), c = '.' at hdots
    have hblank (b : Char) (hb : b ∈ (trimChars name).map unseparated) : isBlank b = false := by
      by_contra h
      have hunderscore := underscore_mem_joinWith ?_ ?_ hb (by simpa using h)
      · exact absurd (hdots _ hunderscore) (by decide)
      · rw [List.head?_map]
        intro c hc
        obtain ⟨d, hd, rfl⟩ := Option.map_eq_some_iff.1 hc
        exact isBlank_unseparated (head?_trimWhile hd)
      · rw [List.getLast?_map]
        intro c hc
        obtain ⟨d, hd, rfl⟩ := Option.map_eq_some_iff.1 hc
        exact isBlank_unseparated (getLast?_trimWhile hd)
    rw [joinWith_words hblank] at hdots
    intro c hc
    have hdot := hdots _ (List.mem_map_of_mem hc)
    unfold unseparated at hdot
    split at hdot
    · exact absurd hdot (by decide)
    · exact hdot
  · intro hdots
    have hkept (c : Char) (hc : c ∈ trimChars name) : isKept c = true := hdots c hc ▸ by decide
    rw [← joinWords_trimChars, joinWords_of_kept hkept]
    exact hdots

/-- **Nothing is left of a name** exactly if there is nothing but dots between its blanks. -/
theorem cleaned_eq_nil_iff {name : List Char} :
    cleaned name = [] ↔ ∀ c ∈ trimChars name, c = '.' := by
  have hkeep (c : Char) : (if isKept c then c else '_') = '.' ↔ c = '.' := by
    split
    · exact Iff.rfl
    · next h => exact iff_of_false (by decide) fun hc => h (hc ▸ by decide)
  rw [← forall_joinWords_iff, cleaned, trimDots, trimWhile_eq_nil_iff]
  simp only [decide_eq_true_eq, mem_squeeze_iff, List.forall_mem_map, hkeep]

/-! ## Underscores -/

lemma head?_squeeze : ∀ text : List Char, (squeeze text).head? = text.head?
  | [] => rfl
  | [_] => rfl
  | a :: b :: rest => by
      rw [squeeze]
      split
      · next hab =>
        rw [head?_squeeze (b :: rest), hab.1, hab.2]
        rfl
      · rfl

/-- **No two underscores are next to each other** after squeezing. -/
theorem not_infix_squeeze : ∀ text : List Char, ¬ ['_', '_'] <:+: squeeze text
  | [] => by simp [squeeze]
  | [c] => fun h => absurd h.length_le (by simp [squeeze])
  | a :: b :: rest => by
      rw [squeeze]
      split
      · exact not_infix_squeeze (b :: rest)
      · next hab =>
        rw [List.infix_cons_iff, not_or]
        refine ⟨fun h => hab ?_, not_infix_squeeze (b :: rest)⟩
        obtain ⟨ha, hnext⟩ := List.cons_prefix_cons.1 h
        obtain ⟨after, hafter⟩ := hnext
        have hhead := head?_squeeze (b :: rest)
        rw [← hafter] at hhead
        exact ⟨ha.symm, (Option.some.inj hhead).symm⟩

/-! ## What is kept -/

/-- Does the character always stay?  Letters, digits and dashes do. -/
def isLasting (c : Char) : Bool :=
  c.isAlphanum || c = '-'

lemma isKept_of_isLasting {c : Char} (h : isLasting c = true) : isKept c = true := by
  simp only [isLasting, Bool.or_eq_true] at h
  simp only [isKept, Bool.or_eq_true]
  tauto

lemma isLasting_of_isBlank {c : Char} (h : isBlank c = true) : isLasting c = false := by
  by_contra hlasting
  have hdark := isBlank_of_isKept (isKept_of_isLasting (by simpa using hlasting))
  simp [h] at hdark

lemma filter_trimWhile {α : Type} {test keep : α → Bool} (h : ∀ x, test x = true → keep x = false)
    (l : List α) : (trimWhile test l).filter keep = l.filter keep := by
  obtain ⟨before, after, heq, hbefore, hafter⟩ := eq_append_trimWhile test l
  have hnone {ends : List α} (hends : ∀ x ∈ ends, test x = true) : ends.filter keep = [] :=
    List.filter_eq_nil_iff.2 fun x hx => by simp [h x (hends x hx)]
  conv_rhs => rw [heq]
  rw [List.filter_append, List.filter_append, hnone hbefore, hnone hafter]
  simp

/-- A replacement of characters that do not last leaves the others. -/
lemma filter_isLasting_map {f : Char → Char}
    (h : ∀ c, f c = c ∨ isLasting (f c) = false ∧ isLasting c = false) (text : List Char) :
    (text.map f).filter isLasting = text.filter isLasting := by
  induction text with
  | nil => rfl
  | cons c rest ih =>
    rw [List.map_cons, List.filter_cons, List.filter_cons, ih]
    rcases h c with heq | ⟨hmade, hlost⟩
    · rw [heq]
    · rw [hmade, hlost]
      rfl

lemma filter_isLasting_joinWith : ∀ pieces : List (List Char),
    (joinWith '_' pieces).filter isLasting = pieces.flatMap (·.filter isLasting)
  | [] => rfl
  | [piece] => by simp [joinWith]
  | piece :: next :: rest => by
      rw [joinWith.eq_3 _ _ _ (List.cons_ne_nil _ _), List.filter_append,
        List.filter_cons_of_neg (by decide), filter_isLasting_joinWith (next :: rest)]
      rfl

lemma flatMap_wordsFrom : ∀ text word : List Char,
    (wordsFrom word text).flatMap (·.filter isLasting) =
      word.reverse.filter isLasting ++ text.filter isLasting
  | [], word => by
      cases word with
      | nil => rfl
      | cons c rest => simp [wordsFrom]
  | c :: rest, word => by
      rw [wordsFrom]
      split
      · next hblank =>
        have hlost := isLasting_of_isBlank hblank
        have ih := flatMap_wordsFrom rest []
        cases word with
        | nil => simpa [hlost] using ih
        | cons d others => simpa [hlost] using ih
      · rw [flatMap_wordsFrom rest (c :: word)]
        rw [List.reverse_cons, List.filter_append, List.append_assoc, ← List.filter_append]
        rfl

lemma filter_isLasting_squeeze : ∀ text : List Char,
    (squeeze text).filter isLasting = text.filter isLasting
  | [] => rfl
  | [_] => rfl
  | c :: d :: rest => by
      have ih := filter_isLasting_squeeze (d :: rest)
      rw [squeeze]
      split
      · next hboth =>
        obtain ⟨rfl, rfl⟩ := hboth
        exact ih.trans (List.filter_cons_of_neg (by decide)).symm
      · rw [List.filter_cons, List.filter_cons, ih]

lemma filter_isLasting_joinWords (name : List Char) :
    (joinWords name).filter isLasting = name.filter isLasting := by
  have hseparator (c : Char) : (if c = '/' ∨ c = '\\' then '_' else c) = c ∨
      isLasting (if c = '/' ∨ c = '\\' then '_' else c) = false ∧ isLasting c = false := by
    split
    · next hc => exact Or.inr (by rcases hc with rfl | rfl <;> decide)
    · exact Or.inl rfl
  rw [joinWords, filter_isLasting_joinWith, words, flatMap_wordsFrom,
    filter_isLasting_map hseparator, trimChars, filter_trimWhile fun c => isLasting_of_isBlank]
  rfl

/-- **Letters, digits and dashes stay**, in their order. -/
theorem filter_isLasting_cleaned (name : List Char) :
    (cleaned name).filter isLasting = name.filter isLasting := by
  have hdot (c : Char) (hc : decide (c = '.') = true) : isLasting c = false := by
    rw [of_decide_eq_true hc]
    decide
  have hother (c : Char) : (if isKept c then c else '_') = c ∨
      isLasting (if isKept c then c else '_') = false ∧ isLasting c = false := by
    split
    · exact Or.inl rfl
    · next hc =>
      exact Or.inr ⟨by decide,
        Bool.eq_false_iff.2 fun hlasting => hc (isKept_of_isLasting hlasting)⟩
  rw [cleaned, trimDots, filter_trimWhile hdot, filter_isLasting_squeeze,
    filter_isLasting_map hother, filter_isLasting_joinWords]

/-! ## Directory names -/

/-- A name as directories of samples have it. -/
structure IsMade (name : String) : Prop where
  ne_empty : name ≠ ""
  kept : ∀ c ∈ name.toList, c.isAlphanum ∨ c = '.' ∨ c = '_' ∨ c = '-'
  single : ¬ ['_', '_'] <:+: name.toList
  first : name.toList.head? ≠ some '.'
  last : name.toList.getLast? ≠ some '.'

lemma isKept_iff {c : Char} :
    isKept c = true ↔ c.isAlphanum ∨ c = '.' ∨ c = '_' ∨ c = '-' := by
  simp [isKept, or_assoc]

/-- Such names stay as they are. -/
lemma directoryName_eq_self_iff_isMade {name : String} :
    directoryName name = .ok name ↔ IsMade name := by
  rw [directoryName_eq_self_iff]
  simp only [isKept_iff]
  exact ⟨fun ⟨hne, hkept, hsingle, hfirst, hlast⟩ => ⟨hne, hkept, hsingle, hfirst, hlast⟩,
    fun h => ⟨h.ne_empty, h.kept, h.single, h.first, h.last⟩⟩

/-- **Whatever a directory name is made of, it is such a name.** -/
theorem isMade_of_directoryName {name made : String} (h : directoryName name = .ok made) :
    IsMade made := by
  obtain ⟨hne, hmade⟩ := directoryName_eq_ok_iff.1 h
  refine ⟨hne, fun c hc => isKept_iff.1 (isKept_of_directoryName h c hc), fun hdouble => ?_,
    fun hfirst => ?_, fun hlast => ?_⟩
  · rw [hmade] at hdouble
    exact not_infix_squeeze _ (hdouble.trans (infix_trimDots _))
  · rw [hmade] at hfirst
    exact absurd (head?_trimWhile hfirst) (by decide)
  · rw [hmade] at hlast
    exact ne_dot_of_getLast?_cleaned hlast rfl

/-- **Which names stay, which are refused, and what is made of the others.** -/
theorem directoryName_exact (name : String) (w : World) :
    (Ends (Workspace.directoryName name) w (.ok name) w ↔ IsMade name) ∧
    (((∀ c ∈ trimChars name.toList, c = '.') ∧
      Ends (Workspace.directoryName name) w (.error (.workspace (.badName ⟨name⟩))) w) ∨
    (¬ (∀ c ∈ trimChars name.toList, c = '.') ∧
      ∃ made, Ends (Workspace.directoryName name) w (.ok made) w ∧ IsMade made ∧
        Path.IsName made ∧ made.toList.filter isLasting = name.toList.filter isLasting ∧
        Ends (Workspace.directoryName made) w (.ok made) w)) := by
  have hself : Ends (Workspace.directoryName name) w (.ok name) w ↔ IsMade name := by
    rw [Workspace.ends_directoryName_ok, directoryName_eq_self_iff_isMade]
    exact and_iff_left rfl
  refine ⟨hself, ?_⟩
  by_cases hdots : ∀ c ∈ trimChars name.toList, c = '.'
  · have hbad : directoryName name = .error ⟨name⟩ := by
      rw [directoryName, cleaned_eq_nil_iff.2 hdots]
    refine .inl ⟨hdots, ?_⟩
    rw [Workspace.directoryName, hbad]
    exact ends_throw.2 ⟨rfl, rfl⟩
  · have hne : cleaned name.toList ≠ [] := fun hnil => hdots (cleaned_eq_nil_iff.1 hnil)
    have hmade : directoryName name = .ok (String.ofList (cleaned name.toList)) := by
      rw [directoryName_eq_ok_iff, String.toList_ofList]
      exact ⟨fun hempty => hne (by simpa using congrArg String.toList hempty), rfl⟩
    have hagain := directoryName_eq_self_iff_isMade.2 (isMade_of_directoryName hmade)
    exact .inr ⟨hdots, _, Workspace.ends_directoryName_ok.2 ⟨hmade, rfl⟩,
      isMade_of_directoryName hmade, isName_directoryName hmade,
      by rw [String.toList_ofList, filter_isLasting_cleaned],
      Workspace.ends_directoryName_ok.2 ⟨hagain, rfl⟩⟩

end WasmCoverage.Artifact
