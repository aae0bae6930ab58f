import Mathlib.Data.List.Nodup
import Mathlib.Data.List.Range
import Mathlib.Tactic.Lemma
import WasmCoverage.Ir.Neutralize

/-!
# What a structural brace is

`Line.braces` finds the structural braces of a line by one scan with a flag.  Here the same notion
is said of a column, without a scan, and the two are shown to agree.

**Structure.**  A column is *quoted* if an odd number of quotes comes before it, and *commented*
if a `;` that is not quoted comes before it.  A brace is structural if its column is neither.
`Line.structural` lists these braces, and **`braces_eq_structural`** says that the scan finds
exactly them, in order.

**Depth.**  `height` counts opening braces against closing ones, and `NeverBelow` says that the
count, taken after every brace, stays at a floor or above it.

**Ends.**  `Line.EndsAt` says that only blanks or a comment follow a column.  Only the last
structural brace of a line can be such a column (`eq_nil_of_endsAt`): whatever comes before
another structural brace is neither blank nor a comment.
-/

namespace WasmCoverage.Ir

open WasmCoverage.Text

/-- The glyph of a brace. -/
def Brace.glyph : Brace → Glyph
  | opening => .char '{'
  | closing => .char '}'

/-- The quote that opens and closes string literals. -/
abbrev quoteGlyph : Glyph := .char '"'

/-- The semicolon that begins a comment. -/
abbrev commentGlyph : Glyph := .char ';'

namespace Line

/-! ## Columns -/

/-- Is the column inside a string literal?  Each quote before it opens or closes one. -/
def Quoted (line : Line) (column : Nat) : Prop :=
  (line.take column).count quoteGlyph % 2 = 1

instance (line : Line) (column : Nat) : Decidable (line.Quoted column) :=
  inferInstanceAs (Decidable (_ = _))

-- `line` is bracketed wherever it is indexed, as Mathlib writes spans of points with `line[`.
/-- Is the column in a comment?  One begins at the first `;` outside every literal. -/
def Commented (line : Line) (column : Nat) : Prop :=
  ∃ j, j < column ∧ (line)[j]? = some commentGlyph ∧ ¬ line.Quoted j

instance (line : Line) (column : Nat) : Decidable (line.Commented column) :=
  inferInstanceAs (Decidable (∃ _, _ ∧ _))

/-- Does a structural brace stand at the column? -/
def Structural (line : Line) (column : Nat) (brace : Brace) : Prop :=
  (line)[column]? = some brace.glyph ∧ ¬ line.Quoted column ∧ ¬ line.Commented column

instance (line : Line) (column : Nat) (brace : Brace) :
    Decidable (line.Structural column brace) :=
  inferInstanceAs (Decidable (_ ∧ _))

/-- The structural brace at a column, if there is one. -/
def structuralAt? (line : Line) (column : Nat) : Option (Nat × Brace) :=
  if line.Structural column .opening then some (column, .opening)
  else if line.Structural column .closing then some (column, .closing)
  else none

/-- The structural braces of a line, from left to right. -/
def structural (line : Line) : List (Nat × Brace) :=
  (List.range line.length).filterMap line.structuralAt?

lemma structuralAt?_eq_some_iff {line : Line} {column i : Nat} {b : Brace} :
    line.structuralAt? column = some (i, b) ↔ i = column ∧ line.Structural column b := by
  simp only [structuralAt?]
  split_ifs with ho hc
  · cases b with
    | opening => simp [ho, eq_comm]
    | closing => simpa using fun _ h => by simp_all [Structural, Brace.glyph]
  · cases b with
    | opening => simpa using fun _ h => ho h
    | closing => simp [hc, eq_comm]
  · cases b with
    | opening => simp [ho]
    | closing => simp [hc]

lemma mem_structural_iff {line : Line} {i : Nat} {b : Brace} :
    (i, b) ∈ line.structural ↔ line.Structural i b := by
  simp only [structural, List.mem_filterMap, List.mem_range, structuralAt?_eq_some_iff]
  constructor
  · rintro ⟨column, _, rfl, h⟩
    exact h
  · intro h
    have hlt : i < line.length := (List.getElem?_eq_some_iff.1 h.1).1
    exact ⟨i, hlt, rfl, h⟩

/-- The columns of the structural braces increase. -/
lemma pairwise_structural (line : Line) : line.structural.Pairwise (·.1 < ·.1) := by
  refine List.Pairwise.filterMap _ ?_ List.pairwise_lt_range
  rintro i j hij ⟨a, b⟩ ha ⟨c, d⟩ hc
  rw [structuralAt?_eq_some_iff] at ha hc
  simp only [ha.1, hc.1]
  exact hij

/-! ## The scan -/

/-- The scan's answer for a column that lies `i` glyphs further on: the quotes on the way, and the
one before it if a literal is open, tell whether the column is quoted. -/
lemma mem_bracesFrom_iff {b : Brace} : ∀ (glyphs : Line) (inString : Bool) (column i : Nat),
    (column + i, b) ∈ bracesFrom inString column glyphs ↔
      glyphs[i]? = some b.glyph ∧
      ((glyphs.take i).count quoteGlyph + inString.toNat) % 2 = 0 ∧
      ∀ j, j < i → glyphs[j]? = some commentGlyph →
        ((glyphs.take j).count quoteGlyph + inString.toNat) % 2 = 1
  | [], inString, column, i => by simp [bracesFrom]
  | g :: rest, inString, column, 0 => by
      have later (s : Bool) : (column, b) ∉ bracesFrom s (column + 1) rest := by
        intro h
        have := (column_of_mem_bracesFrom h).1
        omega
      cases inString with
      | true => simp [bracesFrom, later]
      | false =>
          simp only [bracesFrom, Bool.false_eq_true, if_false, Nat.add_zero]
          split_ifs with hq hc ho hcl
          · cases b <;> simp [hq, later, Brace.glyph]
          · cases b <;> simp [hc, Brace.glyph]
          · cases b <;> simp [ho, later, Brace.glyph]
          · cases b <;> simp [hcl, later, Brace.glyph]
          · cases b <;> simp [later, Brace.glyph, ho, hcl]
  | g :: rest, inString, column, i + 1 => by
      have step (s : Bool) := mem_bracesFrom_iff (b := b) rest s (column + 1) i
      rw [show column + 1 + i = column + (i + 1) by omega] at step
      have flip (n : Nat) : (n + 1 + 1) % 2 = n % 2 := by omega
      simp only [List.getElem?_cons_succ, List.take_succ_cons, Nat.forall_lt_succ_left,
        List.getElem?_cons_zero, List.take_zero, List.count_nil, List.count_cons,
        Option.some.injEq, Nat.zero_add]
      cases inString with
      | true =>
          by_cases hq : g = quoteGlyph
          · simp [bracesFrom, step, hq, flip]
          · simp [bracesFrom, step, hq]
      | false =>
          by_cases hq : g = quoteGlyph
          · simp [bracesFrom, step, hq]
          by_cases hc : g = commentGlyph
          · simp [bracesFrom, hc]
          by_cases ho : g = .char '{'
          · simp [bracesFrom, step, ho]
          by_cases hcl : g = .char '}'
          · simp [bracesFrom, step, hcl]
          · simp [bracesFrom, step, hq, hc, ho, hcl]

lemma mem_braces_iff {line : Line} {i : Nat} {b : Brace} :
    (i, b) ∈ line.braces ↔ line.Structural i b := by
  have h := mem_bracesFrom_iff (b := b) line false 0 i
  rw [Nat.zero_add] at h
  rw [braces, h]
  simp only [Structural, Quoted, Commented, Bool.toNat_false, Nat.add_zero, Nat.mod_two_ne_one,
    not_exists, not_and, Nat.mod_two_ne_zero]

/-- A list with increasing columns that holds the structural braces is the list of them. -/
lemma eq_structural {line : Line} {braces : List (Nat × Brace)}
    (hb : braces.Pairwise (·.1 < ·.1)) (h : ∀ i b, (i, b) ∈ braces ↔ line.Structural i b) :
    braces = line.structural := by
  have hs := line.pairwise_structural
  have distinct {l : List (Nat × Brace)} (h : l.Pairwise (·.1 < ·.1)) : l.Nodup :=
    h.imp fun hab heq => by simp [heq] at hab
  refine List.Perm.eq_of_pairwise ?_ hb hs ?_
  · intro a b _ _ hab hba
    omega
  · rw [List.perm_ext_iff_of_nodup (distinct hb) (distinct hs)]
    rintro ⟨i, b⟩
    rw [h, mem_structural_iff]

/-- **The scan finds the structural braces**, all of them and in order. -/
theorem braces_eq_structural (line : Line) : line.braces = line.structural :=
  eq_structural (pairwise_bracesFrom _ _ _) fun _ _ => mem_braces_iff

/-- The braces of the beginning of a line are those that stand in it.  What is put behind it may be
anything that begins with no brace, quote or comment of its own. -/
lemma structural_take_append {line : Line} {k : Nat} {g : Glyph} (hk : k ≤ line.length)
    (hg : ∀ b : Brace, g ≠ b.glyph) :
    structural (line.take k ++ [g]) = line.structural.filter (·.1 < k) := by
  symm
  refine eq_structural (line.pairwise_structural.filter _) fun i b => ?_
  rw [List.mem_filter, mem_structural_iff, decide_eq_true_iff]
  have hlen : (line.take k).length = k := List.length_take_of_le hk
  have same {j : Nat} (hj : j < k) : (line.take k ++ [g])[j]? = (line)[j]? := by
    rw [List.getElem?_append_left (by omega), List.getElem?_take_of_lt hj]
  have quoted {j : Nat} (hj : j < k) :
      Quoted (line.take k ++ [g]) j ↔ line.Quoted j := by
    rw [Quoted, Quoted, List.take_append_of_le_length (by omega), List.take_take,
      Nat.min_eq_left (by omega)]
  have commented (hi : i < k) : Commented (line.take k ++ [g]) i ↔ line.Commented i := by
    refine exists_congr fun j => and_congr_right fun hj => ?_
    rw [same (by omega), quoted (by omega)]
  constructor
  · rintro ⟨⟨hget, hq, hc⟩, hi⟩
    exact ⟨(same hi).trans hget, (quoted hi).not.2 hq, (commented hi).not.2 hc⟩
  · rintro ⟨hget, hq, hc⟩
    have hi : i < k := by
      have := (List.getElem?_eq_some_iff.1 hget).1
      rw [List.length_append, hlen, List.length_singleton] at this
      have hne : i ≠ k := by
        rintro rfl
        rw [List.getElem?_append_right (by omega), hlen, Nat.sub_self] at hget
        exact hg b (by simpa using hget)
      omega
    exact ⟨⟨(same hi).symm.trans hget, (quoted hi).not.1 hq, (commented hi).not.1 hc⟩, hi⟩

/-! ## What follows a column -/

/-- Only blanks, or blanks and a comment, follow the column. -/
def EndsAt (line : Line) (column : Nat) : Prop :=
  ∃ blanks rest, line.drop (column + 1) = blanks ++ rest ∧
    (∀ g ∈ blanks, isBlankGlyph g = true) ∧ (rest = [] ∨ rest.head? = some commentGlyph)

lemma isBlankGlyph_comment : isBlankGlyph commentGlyph = false := by decide +kernel

lemma isBlankGlyph_quote : isBlankGlyph quoteGlyph = false := by decide +kernel

lemma isBlankGlyph_brace (b : Brace) : isBlankGlyph b.glyph = false := by
  cases b <;> decide +kernel

lemma endsAfter_iff {line : Line} {column : Nat} :
    line.endsAfter column = true ↔ line.EndsAt column := by
  simp only [endsAfter, EndsAt, List.all_eq_true]
  constructor
  · intro h
    refine ⟨_, _, (List.takeWhile_append_dropWhile (p := (· ≠ commentGlyph))).symm, h, ?_⟩
    cases hd : (line.drop (column + 1)).dropWhile (· ≠ commentGlyph) with
    | nil => exact Or.inl rfl
    | cons g rest =>
        have := List.head?_dropWhile_not (· ≠ commentGlyph) (line.drop (column + 1))
        rw [hd] at this
        simpa using this
  · rintro ⟨blanks, rest, hline, hblank, hrest⟩ g hg
    have plain (g' : Glyph) (hg' : g' ∈ blanks) : g' ≠ commentGlyph := by
      rintro rfl
      simpa [isBlankGlyph_comment] using hblank _ hg'
    rw [hline, List.takeWhile_append_of_pos (by simpa using plain)] at hg
    rcases List.mem_append.1 hg with hg | hg
    · exact hblank g hg
    · rcases hrest with rfl | hrest
      · simp at hg
      · cases rest with
        | nil => simp at hg
        | cons c rest => simp_all

/-- Blanks between a structural brace and a later column leave that column unquoted. -/
lemma not_quoted_of_blanks {line blanks rest : Line} {c : Nat} {b : Brace}
    (hs : line.Structural c b) (hline : line.drop (c + 1) = blanks ++ rest)
    (hblank : ∀ g ∈ blanks, isBlankGlyph g = true) : ¬ line.Quoted (c + 1 + blanks.length) := by
  have hget : (line)[c]? = some b.glyph := hs.1
  have htake : line.take (c + 1 + blanks.length) = line.take c ++ b.glyph :: blanks := by
    rw [List.take_add, hline, List.take_left, List.take_add_one, hget]
    simp
  have hb : (b.glyph == quoteGlyph) = false := by cases b <;> decide
  have hzero : blanks.count quoteGlyph = 0 := by
    refine List.count_eq_zero.2 fun hmem => ?_
    simpa [isBlankGlyph_quote] using hblank _ hmem
  intro h
  refine hs.2.1 ?_
  simpa [Quoted, htake, List.count_cons, hb, hzero] using h

/-- **Only the last structural brace can end its line.** -/
theorem eq_nil_of_endsAt {line : Line} {done rest : List (Nat × Brace)} {c : Nat} {b : Brace}
    (hsplit : line.structural = done ++ (c, b) :: rest) (hends : line.EndsAt c) : rest = [] := by
  rcases rest with _ | ⟨⟨i, b'⟩, rest⟩
  · rfl
  have hs : line.Structural c b := mem_structural_iff.1 (by simp [hsplit])
  have hi : line.Structural i b' := mem_structural_iff.1 (by simp [hsplit])
  have hlt : c < i := by
    have hpair := line.pairwise_structural
    rw [hsplit, List.pairwise_append] at hpair
    exact (List.pairwise_cons.1 hpair.2.1).1 (i, b') (by simp)
  obtain ⟨blanks, tail, hline, hblank, htail⟩ := hends
  have hget : (blanks ++ tail)[i - (c + 1)]? = some b'.glyph := by
    rw [← hline, List.getElem?_drop, show c + 1 + (i - (c + 1)) = i by omega]
    exact hi.1
  exfalso
  by_cases hin : i - (c + 1) < blanks.length
  · -- the later brace would be one of the blanks
    rw [List.getElem?_append_left hin] at hget
    have := hblank _ (List.mem_of_getElem? hget)
    simp [isBlankGlyph_brace] at this
  · -- or it stands behind the semicolon
    rw [List.getElem?_append_right (by omega)] at hget
    rcases tail with _ | ⟨g, tail⟩
    · simp at hget
    obtain rfl : g = commentGlyph := by simpa using htail
    have hat : (line)[c + 1 + blanks.length]? = some commentGlyph := by
      rw [← List.getElem?_drop, hline]
      simp
    have hne : i ≠ c + 1 + blanks.length := by
      rintro rfl
      rw [hi.1] at hat
      cases b' <;> simp [Brace.glyph] at hat
    exact hi.2.2 ⟨c + 1 + blanks.length, by omega, hat, not_quoted_of_blanks hs hline hblank⟩

end Line

/-! ## Depth -/

/-- Opening braces less closing ones. -/
def height (braces : List (Nat × Brace)) : Int :=
  braces.countP (·.2 = .opening) - braces.countP (·.2 = .closing)

@[simp] lemma height_nil : height [] = 0 := rfl

@[simp] lemma height_opening (column : Nat) (rest : List (Nat × Brace)) :
    height ((column, .opening) :: rest) = height rest + 1 := by
  simp only [height, List.countP_cons]
  push_cast
  simp
  omega

@[simp] lemma height_closing (column : Nat) (rest : List (Nat × Brace)) :
    height ((column, .closing) :: rest) = height rest - 1 := by
  simp only [height, List.countP_cons]
  push_cast
  simp
  omega

@[simp] lemma height_append (a b : List (Nat × Brace)) : height (a ++ b) = height a + height b := by
  simp only [height, List.countP_append]
  push_cast
  omega

/-- Counted from the left, brace by brace, the height never goes below the floor. -/
def NeverBelow (floor : Int) (braces : List (Nat × Brace)) : Prop :=
  ∀ p, p <+: braces → floor ≤ height p

@[simp] lemma neverBelow_nil (floor : Int) : NeverBelow floor [] ↔ floor ≤ 0 := by
  simp [NeverBelow]

lemma neverBelow_concat {floor : Int} {a : List (Nat × Brace)} {x : Nat × Brace} :
    NeverBelow floor (a ++ [x]) ↔ NeverBelow floor a ∧ floor ≤ height (a ++ [x]) := by
  simp only [NeverBelow, List.prefix_concat_iff]
  constructor
  · intro h
    exact ⟨fun p hp => h p (Or.inr hp), h _ (Or.inl rfl)⟩
  · rintro ⟨ha, hx⟩ p (rfl | hp)
    · exact hx
    · exact ha p hp

lemma neverBelow_append {floor : Int} {a b : List (Nat × Brace)} :
    NeverBelow floor (a ++ b) ↔ NeverBelow floor a ∧ NeverBelow (floor - height a) b := by
  constructor
  · intro h
    refine ⟨fun p hp => h p (hp.trans (List.prefix_append a b)), fun p hp => ?_⟩
    have := h (a ++ p) (List.prefix_append_right_inj a |>.2 hp)
    rw [height_append] at this
    omega
  · rintro ⟨ha, hb⟩ p hp
    rcases Nat.le_total p.length a.length with hlen | hlen
    · exact ha p (List.prefix_of_prefix_length_le hp (List.prefix_append a b) hlen)
    · obtain ⟨q, rfl⟩ := List.prefix_of_prefix_length_le (List.prefix_append a b) hp hlen
      have := hb q ((List.prefix_append_right_inj a).1 hp)
      rw [height_append]
      omega

lemma neverBelow_cons {floor : Int} {x : Nat × Brace} {rest : List (Nat × Brace)} :
    NeverBelow floor (x :: rest) ↔ floor ≤ 0 ∧ NeverBelow (floor - height [x]) rest := by
  rw [← List.singleton_append, neverBelow_append, ← List.nil_append [x], neverBelow_concat,
    neverBelow_nil, List.nil_append]
  refine ⟨fun h => ⟨h.1.1, h.2⟩, fun h => ⟨⟨h.1, ?_⟩, h.2⟩⟩
  have := h.2 [] List.nil_prefix
  rw [height_nil] at this
  omega

lemma neverBelow_opening {floor : Int} {column : Nat} {rest : List (Nat × Brace)} :
    NeverBelow floor ((column, .opening) :: rest) ↔ floor ≤ 0 ∧ NeverBelow (floor - 1) rest := by
  rw [neverBelow_cons, height_opening, height_nil, Int.zero_add]

lemma neverBelow_closing {floor : Int} {column : Nat} {rest : List (Nat × Brace)} :
    NeverBelow floor ((column, .closing) :: rest) ↔ floor ≤ 0 ∧ NeverBelow (floor + 1) rest := by
  rw [neverBelow_cons, height_closing, height_nil, show floor - (0 - 1) = floor + 1 by omega]

lemma NeverBelow.height_le {floor : Int} {braces : List (Nat × Brace)}
    (h : NeverBelow floor braces) : floor ≤ height braces :=
  h braces (List.prefix_refl _)

lemma NeverBelow.floor_le {floor : Int} {braces : List (Nat × Brace)}
    (h : NeverBelow floor braces) : floor ≤ 0 := by
  simpa using h [] List.nil_prefix

end WasmCoverage.Ir
