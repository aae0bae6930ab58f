import WasmCoverage.Proofs.Ir.Layout

/-!
# The modules that cannot be neutralized

A module that is no sequence of pieces begins with some pieces, and then comes a definition that
has no body of its own: it is `Bodiless`.  There are three ways to be so.  The header meets a
closing brace that closes nothing, or goes on to the end of the module, or the body that it opens is
never closed.

Every list of lines is pieces up to its first bodiless definition, or up to its end
(`exists_pieces_or_bodiless`), so **`neutralize_eq_error_iff`** says exactly which modules are
refused, and which line is blamed.  The line is that where the definition begins, but for the
closing brace that closes nothing, where it is the line of the brace.

A header goes on over lines that balance, even if another definition begins there.  So a definition
may take over the body of the next one, and then neither is refused
(`not_refused_of_taken_over`).
-/

namespace WasmCoverage.Ir

open WasmCoverage.Text

/-- The lines of a definition from the 1-based line `start` on, up to the end of the module, if it
has no body of its own, and what is wrong with it. -/
inductive Bodiless (start : Nat) : List Line → CutFault → Prop
  /-- A closing brace of the header closes nothing. -/
  | stray {lead : List Line} {line : Line} (behind : List Line)
      (continues : ∀ line ∈ lead, line.Continues) (below : ¬ NeverBelow 0 line.structural) :
      Bodiless start (lead ++ line :: behind) (.strayClosing (start + lead.length))
  /-- The header goes on to the end. -/
  | endless {lead : List Line} (continues : ∀ line ∈ lead, line.Continues) :
      Bodiless start lead (.noBody start)
  /-- The body stays open to the end. -/
  | unclosed {lead : List Line} {last : Line} {depth : Nat} {inside : List Line}
      (continues : ∀ line ∈ lead, line.Continues) (opens : last.Opens depth)
      (stays : NeverBelow (1 - depth) (inside.flatMap Line.structural)) :
      Bodiless start (lead ++ last :: inside) (.noBody start)

/-! ## Bodiless definitions are refused -/

/-- The scan cuts pieces into their segments, whatever follows. -/
lemma cutLines_pieces_append (rest : List Line) : ∀ (pieces : List Piece) (number : Nat),
    cutLines .between number (pieces.flatMap Piece.lines ++ rest) =
      (pieces.flatMap Piece.segments ++ ·) <$>
        cutLines .between (number + (pieces.flatMap Piece.lines).length) rest
  | [], number => by simp
  | piece :: pieces, number => by
      rw [List.flatMap_cons, List.append_assoc, cutLines_piece, cutLines_pieces_append rest pieces]
      simp [Functor.map_map, Nat.add_assoc]

/-- The scan of a header fails where the definition is bodiless. -/
lemma cutLines_header_of_bodiless {start : Nat} {lines : List Line} {fault : CutFault}
    (h : Bodiless start lines fault) : cutLines (.header start) start lines = .error fault := by
  cases h with
  | @stray lead line behind continues below =>
      have hline : headerEnd line 0 none line.braces = .stray := headerEnd_eq_iff.2 below
      rw [cutLines_lead _ _ _ _ continues]
      simp [cutLines, cutLine, cutHeader, hline, bind, Except.bind]
  | endless continues =>
      rw [← List.append_nil lines, cutLines_lead _ _ _ _ continues]
      rfl
  | @unclosed lead last depth inside continues opens stays =>
      obtain ⟨after, hafter⟩ :
          ∃ after : Nat, height (inside.flatMap Line.structural) = after - depth :=
        ⟨(height (inside.flatMap Line.structural) + depth).toNat, by
          have := stays.height_le
          omega⟩
      have hlast (number : Nat) : cutLine (.header start) number last =
          .ok ([.kept last], .body start depth []) := cutHeader_opens opens
      rw [cutLines_lead _ _ _ _ continues, cutLines_cons _ (hlast _), ← List.append_nil inside,
        cutLines_inside _ _ _ _ _ stays hafter]
      rfl

/-- The first line of a definition is read as any line of its header. -/
lemma cutLines_between_of_starts {number : Nat} {first : Line} {more : List Line}
    (hfirst : first.StartsDefinition) :
    cutLines .between number (first :: more) =
      cutLines (.header number) number (first :: more) := by
  have hline : cutLine .between number first = cutLine (.header number) number first := by
    simp [cutLine, Line.beginsDefinition_iff.2 hfirst]
  simp only [cutLines, hline]

/-- **A bodiless definition is refused,** whatever pieces come before it. -/
theorem neutralize_of_bodiless {text : List Glyph} {pieces : List Piece} {first : Line}
    {more : List Line} {fault : CutFault}
    (htext : toLines text = pieces.flatMap Piece.lines ++ first :: more)
    (hfirst : first.StartsDefinition)
    (h : Bodiless ((pieces.flatMap Piece.lines).length + 1) (first :: more) fault) :
    neutralize text = .error fault := by
  have hparts : segments text = .error fault := by
    rw [segments, htext, cutLines_pieces_append, cutLines_between_of_starts hfirst, Nat.add_comm 1,
      cutLines_header_of_bodiless h]
    rfl
  simp only [neutralize, hparts]
  rfl

/-! ## Nothing else is -/

/-- A body stays open over some lines, or one of them closes it. -/
lemma stays_or_closes : ∀ (lines : List Line) {depth : Nat}, 0 < depth →
    NeverBelow (1 - depth) (lines.flatMap Line.structural) ∨
      ∃ inside last column rest, lines = inside ++ last :: rest ∧ Closes depth inside last column
  | [], depth, hdepth => Or.inl (by simp; omega)
  | line :: lines, depth, hdepth => by
      have hanswer : BodyAnswer depth line.structural (bodyEnd depth line.structural) :=
        bodyAnswer_bodyEnd hdepth
      cases hend : bodyEnd depth line.structural with
      | inl after =>
          obtain ⟨hline, hheight⟩ := hend ▸ hanswer
          have hafter : 0 < after := by
            have := hline.height_le
            omega
          rcases stays_or_closes lines hafter with
            hstays | ⟨inside, last, column, rest, rfl, hcloses⟩
          · rw [List.flatMap_cons]
            refine Or.inl (neverBelow_append.2 ⟨hline, ?_⟩)
            convert hstays using 1
            omega
          · exact Or.inr ⟨line :: inside, last, column, rest, rfl, hcloses.cons hline hheight⟩
      | inr column =>
          obtain ⟨before, behind, hline, hbelow, hzero⟩ := hend ▸ hanswer
          exact Or.inr ⟨[], line, column, lines, rfl, before, behind, hline, hbelow, hzero⟩

/-- A header goes on over some lines to the end, or up to one after which it does not. -/
lemma continues_or_last : ∀ lines : List Line, (∀ line ∈ lines, line.Continues) ∨
    ∃ lead last rest, lines = lead ++ last :: rest ∧ (∀ line ∈ lead, line.Continues) ∧
      ¬ last.Continues
  | [] => Or.inl (by simp)
  | line :: lines => by
      by_cases hline : line.Continues
      · rcases continues_or_last lines with hall | ⟨lead, last, rest, rfl, hlead, hlast⟩
        · exact Or.inl (List.forall_mem_cons.2 ⟨hline, hall⟩)
        · exact Or.inr ⟨line :: lead, last, rest, rfl, List.forall_mem_cons.2 ⟨hline, hlead⟩, hlast⟩
      · exact Or.inr ⟨[], line, lines, rfl, by simp, hline⟩

/-- A definition is bodiless, or it is a piece and something shorter follows. -/
lemma bodiless_or_piece (start : Nat) {first : Line} {more : List Line}
    (hfirst : first.StartsDefinition) : (∃ fault, Bodiless start (first :: more) fault) ∨
      ∃ (piece : Piece) (rest : List Line), first :: more = piece.lines ++ rest ∧
        rest.length < (first :: more).length := by
  rcases continues_or_last (first :: more) with hall | ⟨lead, last, rest, hlines, hlead, hlast⟩
  · exact Or.inl ⟨_, .endless hall⟩
  have hstarts : ∀ line, (lead ++ [last]).head? = some line → line.StartsDefinition := by
    intro line hline
    obtain rfl : first = line := by
      cases lead with
      | nil => simp_all
      | cons => simp_all
    exact hfirst
  let header : Header := ⟨lead, last, hstarts, hlead⟩
  have hmeaning : (headerEnd last 0 none last.braces).Describes last := headerEnd_eq_iff.1 rfl
  rw [hlines]
  cases hend : headerEnd last 0 none last.braces with
  | goesOn =>
      rw [hend] at hmeaning
      exact absurd hmeaning hlast
  | stray =>
      rw [hend] at hmeaning
      exact Or.inl ⟨_, .stray rest hlead hmeaning⟩
  | holds opening closing =>
      rw [hend] at hmeaning
      refine Or.inr ⟨.within header opening closing hmeaning, rest, ?_, ?_⟩
      · simp [Piece.lines, Header.lines, header]
      · simp
        omega
  | opens depth =>
      rw [hend] at hmeaning
      rcases stays_or_closes rest hmeaning.pos with
        hstays | ⟨inside, final, column, others, rfl, hcloses⟩
      · exact Or.inl ⟨_, .unclosed hlead hmeaning hstays⟩
      · refine Or.inr ⟨.across header depth hmeaning inside final column hcloses, others, ?_, ?_⟩
        · simp [Piece.lines, Header.lines, header]
        · simp
          omega

/-- **Lines are pieces, up to the first bodiless definition** or up to the end. -/
theorem exists_pieces_or_bodiless (number : Nat) (lines : List Line) : ∃ pieces : List Piece,
    lines = pieces.flatMap Piece.lines ∨ ∃ first more fault,
      lines = pieces.flatMap Piece.lines ++ first :: more ∧ first.StartsDefinition ∧
        Bodiless (number + (pieces.flatMap Piece.lines).length) (first :: more) fault := by
  -- what follows a piece is shorter, and is numbered from where the piece ends
  induction hlength : lines.length using Nat.strong_induction_on generalizing number lines with
  | _ length ih =>
  have step (piece : Piece) (rest : List Line) (hlines : lines = piece.lines ++ rest)
      (hrest : rest.length < lines.length) : ∃ pieces : List Piece,
      lines = pieces.flatMap Piece.lines ∨ ∃ first more fault,
        lines = pieces.flatMap Piece.lines ++ first :: more ∧ first.StartsDefinition ∧
          Bodiless (number + (pieces.flatMap Piece.lines).length) (first :: more) fault := by
    obtain ⟨pieces, hpieces⟩ := ih _ (hlength ▸ hrest) (number + piece.lines.length) rest rfl
    refine ⟨piece :: pieces, hpieces.imp (fun h => ?_) ?_⟩
    · rw [hlines, h, List.flatMap_cons]
    · rintro ⟨first, more, fault, h, hfirst, hbodiless⟩
      refine ⟨first, more, fault, ?_, hfirst, ?_⟩
      · rw [hlines, h, List.flatMap_cons, List.append_assoc]
      · rwa [List.flatMap_cons, List.length_append, ← Nat.add_assoc]
  cases lines with
  | nil => exact ⟨[], Or.inl rfl⟩
  | cons first more =>
      by_cases hfirst : first.StartsDefinition
      · rcases bodiless_or_piece number hfirst with
          ⟨fault, hbodiless⟩ | ⟨piece, rest, hlines, hrest⟩
        · exact ⟨[], Or.inr ⟨first, more, fault, rfl, hfirst, hbodiless⟩⟩
        · exact step piece rest hlines hrest
      · exact step (.plain first hfirst) more rfl (by simp)

/-- **What is refused, and what for.**  A text is refused exactly if its lines are those of some
pieces followed by a bodiless definition, which is then the first one, and the fault is what is
wrong with that. -/
theorem neutralize_eq_error_iff {text : List Glyph} {fault : CutFault} :
    neutralize text = .error fault ↔ ∃ (pieces : List Piece) (first : Line) (more : List Line),
      toLines text = pieces.flatMap Piece.lines ++ first :: more ∧ first.StartsDefinition ∧
        Bodiless ((pieces.flatMap Piece.lines).length + 1) (first :: more) fault := by
  constructor
  · intro h
    obtain ⟨pieces, hpieces | ⟨first, more, fault', htext, hfirst, hbodiless⟩⟩ :=
      exists_pieces_or_bodiless 1 (toLines text)
    · cases h.symm.trans (neutralize_of_pieces hpieces)
    · rw [Nat.add_comm] at hbodiless
      obtain rfl := Except.error.inj (h.symm.trans (neutralize_of_bodiless htext hfirst hbodiless))
      exact ⟨pieces, first, more, htext, hfirst, hbodiless⟩
  · rintro ⟨pieces, first, more, htext, hfirst, hbodiless⟩
    exact neutralize_of_bodiless htext hfirst hbodiless

/-- A definition without a body is not refused if the next one's body can be taken for its own. -/
theorem not_refused_of_taken_over :
    ¬ ∀ (text : List Glyph) (first next : Line) (rest : List Line),
      toLines text = first :: next :: rest → first.StartsDefinition → first.structural = [] →
        next.StartsDefinition → ∃ fault, neutralize text = .error fault := by
  intro h
  have hresult : neutralize ("define void @f()\ndefine void @g() \x7b\n\x7d\n".toList.map .char) =
      .ok ⟨("define void @f()\ndefine void @g() \x7b\nstart:\n  unreachable\n\x7d\n").toList.map
        .char, 1⟩ := by
    decide +kernel
  obtain ⟨fault, hfault⟩ := h ("define void @f()\ndefine void @g() \x7b\n\x7d\n".toList.map .char)
    ("define void @f()\n".toList.map .char) ("define void @g() \x7b\n".toList.map .char)
    ["\x7d\n".toList.map .char] (by decide +kernel)
    (Line.beginsDefinition_iff.1 (by decide +kernel)) (by decide +kernel)
    (Line.beginsDefinition_iff.1 (by decide +kernel))
  cases hresult.symm.trans hfault

end WasmCoverage.Ir
