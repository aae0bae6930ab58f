import WasmCoverage.Proofs.Ir.Braces

/-!
# What a line of a definition means

The scan of a header line answers with one of four `HeaderEnd`s, that of a body line with the
depth after it or the column that closes the body.  Each answer is given its meaning in terms of
the line's structural braces.

**Header lines.**  The four meanings exclude one another, so a line has an answer exactly if it has
that meaning: `headerEnd_eq_iff`.

* `Line.Continues`: the braces balance, and the last of them does not end the line.
* `Line.Opens`: a positive number of braces is left open.
* `Line.Holds`: the braces balance, and the last of them ends the line.  The body lies between it
  and the brace that it matches.
* Otherwise the depth goes below zero.

**Body lines.**  As long as the body stays open, the scan only counts (`bodyEnd_append`), and
`bodyAnswer_bodyEnd` says where it stops.
-/

namespace WasmCoverage.Ir

open WasmCoverage.Text

namespace Line

/-- Does the line begin a definition: is `define`, at column 0, a word of its own? -/
def StartsDefinition (line : Line) : Prop :=
  definitionKeyword <+: line ∧
    ∀ g, (line)[definitionKeyword.length]? = some g → isWord g = false

lemma beginsDefinition_iff {line : Line} :
    line.beginsDefinition = true ↔ line.StartsDefinition := by
  simp only [beginsDefinition, StartsDefinition, Bool.and_eq_true, List.isPrefixOf_iff_prefix,
    List.head?_drop]
  cases (line)[definitionKeyword.length]? <;> simp

/-- A header line after which the header goes on. -/
structure Continues (line : Line) : Prop where
  neverBelow : NeverBelow 0 line.structural
  balanced : height line.structural = 0
  followed : ∀ c, line.structural.getLast? = some (c, .closing) → ¬ line.EndsAt c

/-- A header line after which the body begins, at the given depth. -/
structure Opens (line : Line) (depth : Nat) : Prop where
  neverBelow : NeverBelow 0 line.structural
  height_eq : height line.structural = depth
  pos : 0 < depth

/-- A header line that holds the body between two braces that match. -/
structure Holds (line : Line) (opening closing : Nat) : Prop where
  neverBelow : NeverBelow 0 line.structural
  balanced : height line.structural = 0
  ends : line.EndsAt closing
  matched : ∃ before inner,
    line.structural = before ++ (opening, .opening) :: (inner ++ [(closing, .closing)]) ∧
    height before = 0 ∧ NeverBelow 0 inner

lemma Holds.getLast? {line : Line} {o c : Nat} (h : line.Holds o c) :
    line.structural.getLast? = some (c, .closing) := by
  obtain ⟨before, inner, hsplit, _, _⟩ := h.matched
  rw [hsplit, ← List.cons_append, ← List.append_assoc, List.getLast?_concat]

end Line

/-- A closing brace has one brace that it matches: the one that last left depth zero. -/
lemma matched_unique {before inner before' inner' : List (Nat × Brace)} {o o' : Nat}
    (h : before ++ (o, .opening) :: inner = before' ++ (o', .opening) :: inner')
    (hb : height before = 0) (hb' : height before' = 0) (hi : NeverBelow 0 inner)
    (hi' : NeverBelow 0 inner') : o = o' := by
  -- of two different matches the outer one would still be open at the inner one
  have apart {a b c d : List (Nat × Brace)} {x y : Nat} (hc : c = a ++ (x, .opening) :: d)
      (ha : height a = 0) (hd : NeverBelow 0 (d ++ (y, .opening) :: b)) : height c ≠ 0 := by
    have := (neverBelow_append.1 hd).1.height_le
    rw [hc, height_append, height_opening]
    omega
  rcases List.append_eq_append_iff.1 h with ⟨between, hc, hd⟩ | ⟨between, hc, hd⟩
  · rcases between with _ | ⟨x, between⟩
    · simp_all
    · obtain ⟨rfl, rfl⟩ := List.cons.inj hd
      exact absurd hb' (apart hc hb hi)
  · rcases between with _ | ⟨x, between⟩
    · simp_all
    · obtain ⟨rfl, rfl⟩ := List.cons.inj hd
      exact absurd hb (apart hc hb' hi')

lemma Line.Holds.unique {line : Line} {o o' c c' : Nat} (h : line.Holds o c)
    (h' : line.Holds o' c') : o = o' ∧ c = c' := by
  obtain rfl : c = c' := by simpa using h.getLast?.symm.trans h'.getLast?
  obtain ⟨before, inner, hsplit, hb, hi⟩ := h.matched
  obtain ⟨before', inner', hsplit', hb', hi'⟩ := h'.matched
  refine ⟨matched_unique ?_ hb hb' hi hi', rfl⟩
  rw [hsplit, ← List.cons_append, ← List.cons_append, ← List.append_assoc,
    ← List.append_assoc] at hsplit'
  exact List.append_cancel_right hsplit'

/-! ## The four answers of a header line -/

/-- What an answer says about the line. -/
def HeaderEnd.Describes (line : Line) : HeaderEnd → Prop
  | goesOn => line.Continues
  | opens depth => line.Opens depth
  | holds opening closing => line.Holds opening closing
  | stray => ¬ NeverBelow 0 line.structural

/-- A line has one answer. -/
lemma HeaderEnd.Describes.unique {line : Line} {e e' : HeaderEnd} (h : e.Describes line)
    (h' : e'.Describes line) : e = e' := by
  have apart {d : Nat} (ho : line.Opens d) : height line.structural ≠ 0 := by
    have := ho.height_eq
    have := ho.pos
    omega
  cases e with
  | goesOn =>
      cases e' with
      | goesOn => rfl
      | opens d => exact absurd h.balanced (apart h')
      | holds o c => exact absurd h'.ends (h.followed c h'.getLast?)
      | stray => exact absurd h.neverBelow h'
  | opens d =>
      cases e' with
      | goesOn => exact absurd h'.balanced (apart h)
      | opens d' =>
          have := h.height_eq.symm.trans h'.height_eq
          rw [Int.natCast_inj.1 this]
      | holds o c => exact absurd h'.balanced (apart h)
      | stray => exact absurd h.neverBelow h'
  | holds o c =>
      cases e' with
      | goesOn => exact absurd h.ends (h'.followed c h.getLast?)
      | opens d => exact absurd h.balanced (apart h')
      | holds o' c' =>
          obtain ⟨rfl, rfl⟩ := Line.Holds.unique h h'
          rfl
      | stray => exact absurd h.neverBelow h'
  | stray =>
      cases e' with
      | goesOn => exact absurd h'.neverBelow h
      | opens d => exact absurd h'.neverBelow h
      | holds o c => exact absurd h'.neverBelow h
      | stray => rfl

/-- Where the scan of a header line stands after the braces `done`. -/
structure HeaderScan (line : Line) (done : List (Nat × Brace)) (depth : Nat)
    (opened : Option Nat) : Prop where
  height_eq : height done = depth
  neverBelow : NeverBelow 0 done
  /-- At a positive depth, `opened` is the column of the brace that left depth zero. -/
  opened : 0 < depth → ∃ o before mid, opened = some o ∧ done = before ++ (o, .opening) :: mid ∧
    height before = 0 ∧ NeverBelow 0 mid
  /-- Had the last brace ended the line, the scan would have stopped there. -/
  followed : depth = 0 → ∀ c, done.getLast? = some (c, .closing) → ¬ line.EndsAt c

lemma HeaderScan.nil (line : Line) : HeaderScan line [] 0 none where
  height_eq := by simp
  neverBelow := by simp
  opened := by omega
  followed := by simp

/-- An opening brace goes one deeper. -/
lemma HeaderScan.opening {line : Line} {done : List (Nat × Brace)} {depth column : Nat}
    {opened : Option Nat} (h : HeaderScan line done depth opened) :
    HeaderScan line (done ++ [(column, .opening)]) (depth + 1)
      (if depth = 0 then some column else opened) where
  height_eq := by simp [h.height_eq]
  neverBelow := by
    refine neverBelow_concat.2 ⟨h.neverBelow, ?_⟩
    simp [h.height_eq]
    omega
  opened := by
    intro _
    by_cases hd : depth = 0
    · refine ⟨column, done, [], by simp [hd], rfl, ?_, by simp⟩
      rw [h.height_eq, hd]
      rfl
    · obtain ⟨o, before, mid, ho, hdone, hb, hm⟩ := h.opened (by omega)
      refine ⟨o, before, mid ++ [(column, .opening)], by simp [hd, ho], by simp [hdone], hb, ?_⟩
      have := hm.height_le
      refine neverBelow_concat.2 ⟨hm, ?_⟩
      simp
      omega
  followed := by simp

/-- A closing brace comes back by one, unless it ends the line at depth zero. -/
lemma HeaderScan.closing {line : Line} {done : List (Nat × Brace)} {depth column : Nat}
    {opened : Option Nat} (h : HeaderScan line done (depth + 1) opened)
    (hends : depth = 0 → ¬ line.EndsAt column) :
    HeaderScan line (done ++ [(column, .closing)]) depth opened where
  height_eq := by
    rw [height_append, h.height_eq, height_closing, height_nil]
    omega
  neverBelow := by
    refine neverBelow_concat.2 ⟨h.neverBelow, ?_⟩
    rw [height_append, h.height_eq, height_closing, height_nil]
    omega
  opened := by
    intro hd
    obtain ⟨o, before, mid, ho, hdone, hb, hm⟩ := h.opened (by omega)
    refine ⟨o, before, mid ++ [(column, .closing)], ho, by simp [hdone], hb, ?_⟩
    have := h.height_eq
    rw [hdone, height_append, height_opening] at this
    refine neverBelow_concat.2 ⟨hm, ?_⟩
    simp
    omega
  followed := by
    intro hd c hc
    obtain rfl : column = c := by simpa using hc
    exact hends hd

lemma headerEnd_describes {line : Line} {done braces : List (Nat × Brace)} {depth : Nat}
    {opened : Option Nat} (hsplit : line.structural = done ++ braces)
    (h : HeaderScan line done depth opened) :
    (headerEnd line depth opened braces).Describes line := by
  fun_induction headerEnd line depth opened braces generalizing done with
  | case1 opened =>
      rw [List.append_nil] at hsplit
      exact ⟨hsplit ▸ h.neverBelow, by rw [hsplit, h.height_eq]; rfl, hsplit ▸ h.followed rfl⟩
  | case2 depth opened hd =>
      rw [List.append_nil] at hsplit
      exact ⟨hsplit ▸ h.neverBelow, by rw [hsplit, h.height_eq], by omega⟩
  | case3 depth opened column rest ih =>
      exact ih (by simp [hsplit]) h.opening
  | case4 opened column rest =>
      intro hnever
      have := hnever (done ++ [(column, .closing)]) (by simp [hsplit])
      simp [h.height_eq] at this
  | case5 column rest start hends =>
      have hat : line.EndsAt column := Line.endsAfter_iff.1 hends
      obtain rfl : rest = [] := Line.eq_nil_of_endsAt hsplit hat
      obtain ⟨o, before, mid, ho, hdone, hb, hm⟩ := h.opened (by omega)
      obtain rfl : start = o := by simpa using ho
      have hheight : height line.structural = 0 := by simp [hsplit, h.height_eq]
      refine ⟨?_, hheight, hat, before, mid, by simp [hsplit, hdone], hb, hm⟩
      rw [hsplit]
      refine neverBelow_concat.2 ⟨h.neverBelow, ?_⟩
      simp [h.height_eq]
  | case6 column rest start hends ih =>
      have hscan : HeaderScan line (done ++ [(column, .closing)]) 0 (some start) :=
        h.closing fun _ hat => hends (Line.endsAfter_iff.2 hat)
      exact ih (by simp [hsplit]) hscan
  | case7 opened column rest depth hnot ih =>
      have hscan : HeaderScan line (done ++ [(column, .closing)]) depth opened := by
        refine h.closing fun hd => ?_
        -- at depth one the scan knows where the body was opened
        obtain ⟨o, _, _, ho, _⟩ := h.opened (by omega)
        exact (hnot o ho hd).elim
      exact ih (by simp [hsplit]) hscan

/-- **The answer of a header line is the one whose meaning holds.** -/
theorem headerEnd_eq_iff {line : Line} {answer : HeaderEnd} :
    headerEnd line 0 none line.braces = answer ↔ answer.Describes line := by
  have h : (headerEnd line 0 none line.braces).Describes line :=
    headerEnd_describes (by simp [Line.braces_eq_structural]) (HeaderScan.nil line)
  exact ⟨fun heq => heq ▸ h, fun h' => h.unique h'⟩

/-! ## The answers of a body line -/

/-- As long as the depth stays positive, the scan only counts. -/
lemma bodyEnd_append {rest : List (Nat × Brace)} {d : Nat} :
    ∀ (before : List (Nat × Brace)) {depth : Nat}, NeverBelow (1 - depth) before →
      height before = d - depth → bodyEnd depth (before ++ rest) = bodyEnd d rest
  | [], depth, _, hh => by
      obtain rfl : depth = d := by
        rw [height_nil] at hh
        omega
      rfl
  | (c, .opening) :: before, depth, hn, hh => by
      rw [height_opening] at hh
      rw [List.cons_append, bodyEnd]
      refine bodyEnd_append before ?_ (by push_cast; omega)
      convert (neverBelow_opening.1 hn).2 using 1
      push_cast
      omega
  | (c, .closing) :: before, depth, hn, hh => by
      have htail := (neverBelow_closing.1 hn).2
      have hdeep : ¬ depth ≤ 1 := by
        have := htail.floor_le
        omega
      rw [height_closing] at hh
      rw [List.cons_append, bodyEnd, if_neg hdeep]
      refine bodyEnd_append before ?_ (by omega)
      convert htail using 1
      omega

/-- A body that stays open goes on at the depth that the braces leave. -/
lemma bodyEnd_eq_inl {braces : List (Nat × Brace)} {depth d : Nat}
    (hn : NeverBelow (1 - depth) braces) (hh : height braces = d - depth) :
    bodyEnd depth braces = .inl d := by
  rw [← List.append_nil braces, bodyEnd_append braces hn hh, bodyEnd]

/-- A body is closed by the brace at which the depth reaches zero. -/
lemma bodyEnd_eq_inr {before after : List (Nat × Brace)} {depth column : Nat}
    (hn : NeverBelow (1 - depth) before) (hh : height before = 1 - depth) :
    bodyEnd depth (before ++ (column, .closing) :: after) = .inr column := by
  rw [bodyEnd_append (d := 1) before hn hh, bodyEnd, if_pos (Nat.le_refl 1)]

/-- What an answer says about the braces of a body line that begins at the given depth: the body
goes on at the depth that the braces leave, or is closed by the first brace at which the depth
reaches zero. -/
def BodyAnswer (depth : Nat) (braces : List (Nat × Brace)) : Nat ⊕ Nat → Prop
  | .inl after => NeverBelow (1 - depth) braces ∧ height braces = after - depth
  | .inr column => ∃ before after, braces = before ++ (column, .closing) :: after ∧
      NeverBelow (1 - depth) before ∧ height before = 1 - depth

/-- The answer behind an opening brace, seen from before it. -/
lemma BodyAnswer.opening {depth c : Nat} {braces : List (Nat × Brace)} {answer : Nat ⊕ Nat}
    (hd : 0 < depth) (h : BodyAnswer (depth + 1) braces answer) :
    BodyAnswer depth ((c, .opening) :: braces) answer := by
  have hn {b : List (Nat × Brace)} (hb : NeverBelow (1 - (depth + 1 : Nat)) b) :
      NeverBelow (1 - depth) ((c, .opening) :: b) := by
    refine neverBelow_opening.2 ⟨by omega, ?_⟩
    convert hb using 1
    push_cast
    omega
  cases answer with
  | inl after =>
      refine ⟨hn h.1, ?_⟩
      rw [height_opening, h.2]
      push_cast
      omega
  | inr column =>
      obtain ⟨before, after, rfl, hb, hh⟩ := h
      refine ⟨(c, .opening) :: before, after, rfl, hn hb, ?_⟩
      rw [height_opening, hh]
      push_cast
      omega

/-- The answer behind a closing brace that leaves the body open, seen from before it. -/
lemma BodyAnswer.closing {depth c : Nat} {braces : List (Nat × Brace)} {answer : Nat ⊕ Nat}
    (hd : 1 < depth) (h : BodyAnswer (depth - 1) braces answer) :
    BodyAnswer depth ((c, .closing) :: braces) answer := by
  have hn {b : List (Nat × Brace)} (hb : NeverBelow (1 - (depth - 1 : Nat)) b) :
      NeverBelow (1 - depth) ((c, .closing) :: b) := by
    refine neverBelow_closing.2 ⟨by omega, ?_⟩
    convert hb using 1
    omega
  cases answer with
  | inl after =>
      refine ⟨hn h.1, ?_⟩
      rw [height_closing, h.2]
      omega
  | inr column =>
      obtain ⟨before, after, rfl, hb, hh⟩ := h
      refine ⟨(c, .closing) :: before, after, rfl, hn hb, ?_⟩
      rw [height_closing, hh]
      omega

/-- **The answer of a body line says what its braces do.** -/
theorem bodyAnswer_bodyEnd {depth : Nat} {braces : List (Nat × Brace)} (hd : 0 < depth) :
    BodyAnswer depth braces (bodyEnd depth braces) := by
  fun_induction bodyEnd depth braces with
  | case1 depth =>
      simp [BodyAnswer]
      omega
  | case2 depth c rest ih => exact (ih (by omega)).opening hd
  | case3 depth column rest hle =>
      obtain rfl : depth = 1 := by omega
      exact ⟨[], rest, rfl, by simp, rfl⟩
  | case4 depth column rest hle ih => exact (ih (by omega)).closing (by omega)

end WasmCoverage.Ir
