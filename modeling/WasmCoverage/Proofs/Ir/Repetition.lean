import WasmCoverage.Proofs.Ir.Lines

/-!
# Neutralizing twice

A neutralized module keeps the headers of its definitions as they were.  It is neutralized again to
itself exactly if every body below a header begins at depth one, **`neutralize_again_iff`**: then
the one brace that is kept closes the body.  A header line that leaves two braces or more open does
not get its second brace back, so a second run reads on and takes away more than the stub.

**One direction** is about pieces: a definition that begins at depth one becomes a definition again,
with the stub as its body (`Piece.again`).

**The other** counts glyphs.  In a neutralized module every header is followed by a stub
(`Stubbed`), so no body that a second run finds is shorter than the stub (`length_le_of_stubbed`);
and one that begins at a greater depth is longer (`length_lt_of_opens`).
-/

namespace WasmCoverage.Ir

open WasmCoverage.Text

/-! ## The lines of a neutralized module -/

/-- The lines of the stub. -/
def stubLines : List Line :=
  ["start:\n".toList.map .char, "  unreachable\n".toList.map .char]

lemma flatten_stubLines : stubLines.flatten = Segment.stub := by decide

lemma complete_of_mem_stubLines {line : Line} (h : line ∈ stubLines) : line.Complete := by
  simp only [stubLines, List.mem_cons, List.not_mem_nil, or_false] at h
  rcases h with rfl | rfl
  · exact ⟨"start:".toList.map .char, by decide, by decide⟩
  · exact ⟨"  unreachable".toList.map .char, by decide, by decide⟩

lemma structural_of_mem_stubLines {line : Line} (h : line ∈ stubLines) : line.structural = [] := by
  rw [← Line.braces_eq_structural]
  simp only [stubLines, List.mem_cons, List.not_mem_nil, or_false] at h
  rcases h with rfl | rfl <;> decide

lemma not_startsDefinition_of_mem_stubLines {line : Line} (h : line ∈ stubLines) :
    ¬ line.StartsDefinition := by
  simp only [stubLines, List.mem_cons, List.not_mem_nil, or_false] at h
  rcases h with rfl | rfl
  · exact fun hs => absurd hs.1 (by decide)
  · exact fun hs => absurd hs.1 (by decide)

namespace Piece

/-- The lines that a piece becomes. -/
def outputLines : Piece → List Line
  | plain line _ => [line]
  | across header _ _ _ last column _ => header.lines ++ stubLines ++ [last.drop column]
  | within header opening closing _ =>
    header.lead ++ [header.last.take (opening + 1) ++ [lineFeed]] ++ stubLines ++
      [header.last.drop closing]

lemma flatten_outputLines (piece : Piece) : piece.outputLines.flatten = piece.output := by
  cases piece <;> simp [outputLines, output, flatten_stubLines]

/-- Does the body of a definition, if it lies below the header, begin at depth one? -/
def LeavesOneOpen : Piece → Prop
  | across _ depth _ _ _ _ _ => depth = 1
  | _ => True

end Piece

lemma Line.Structural.lt_length {line : Line} {i : Nat} {b : Brace} (h : line.Structural i b) :
    i < line.length :=
  (List.getElem?_eq_some_iff.1 h.1).1

lemma Closes.structural {depth column : Nat} {inside : List Line} {last : Line}
    (h : Closes depth inside last column) : last.Structural column .closing := by
  obtain ⟨before, after, hlast, _⟩ := h
  exact Line.mem_structural_iff.1 (by simp [hlast])

lemma Line.Holds.structural {line : Line} {o c : Nat} (h : line.Holds o c) :
    line.Structural o .opening ∧ line.Structural c .closing := by
  obtain ⟨before, inner, hsplit, _⟩ := h.matched
  exact ⟨mem_structural_iff.1 (by simp [hsplit]), mem_structural_iff.1 (by simp [hsplit])⟩

lemma Line.Holds.lt {line : Line} {o c : Nat} (h : line.Holds o c) : o < c := by
  obtain ⟨before, inner, hsplit, _⟩ := h.matched
  have hpair := line.pairwise_structural
  rw [hsplit, List.pairwise_append] at hpair
  exact (List.pairwise_cons.1 hpair.2.1).1 (c, .closing) (by simp)

namespace Piece

/-- The last line of a piece is cut at its front or not at all; the lines before it are complete
again. -/
lemma outputLines_eq (piece : Piece) : ∃ init last k init', piece.lines = init ++ [last] ∧
    piece.outputLines = init' ++ [last.drop k] ∧ (last.Fragment → k < last.length) ∧
    ((∀ line ∈ init, Line.Complete line) → last.Fragment → ∀ line ∈ init', Line.Complete line) := by
  cases piece with
  | plain line outside =>
      refine ⟨[], line, 0, [], rfl, rfl, fun h => List.length_pos_iff.2 h.ne_nil, by simp⟩
  | across header depth opens inside last column closes =>
      refine ⟨header.lines ++ inside, last, column, header.lines ++ stubLines, ?_, rfl,
        fun _ => closes.structural.lt_length, ?_⟩
      · simp [lines]
      · intro h _ line hline
        rcases List.mem_append.1 hline with hline | hline
        · exact h line (List.mem_append_left _ hline)
        · exact complete_of_mem_stubLines hline
  | within header opening closing holds =>
      have hc := holds.structural.2.lt_length
      refine ⟨header.lead, header.last, closing, _, rfl, rfl, fun _ => hc, ?_⟩
      intro h hlast line hline
      simp only [List.mem_append, List.mem_singleton] at hline
      rcases hline with (hline | rfl) | hline
      · exact h line hline
      · refine ⟨_, rfl, hlast.not_mem_take ?_⟩
        have := holds.lt
        omega
      · exact complete_of_mem_stubLines hline

end Piece

/-- The lines of a neutralized module are the lines of a text again. -/
lemma isLines_outputLines : ∀ {pieces : List Piece}, IsLines (pieces.flatMap Piece.lines) →
    IsLines (pieces.flatMap Piece.outputLines)
  | [], _ => trivial
  | piece :: pieces, h => by
      obtain ⟨init, last, k, init', hlines, houtput, hk, hinit⟩ := piece.outputLines_eq
      rw [List.flatMap_cons, hlines, List.append_assoc, isLines_append (by simp)] at h
      rw [List.flatMap_cons, houtput, List.append_assoc, isLines_append (by simp)]
      cases pieces with
      | nil =>
          have hlast : last.Fragment := h.2
          exact ⟨hinit h.1 hlast, hlast.drop (hk hlast)⟩
      | cons next others =>
          have hne : (next :: others).flatMap Piece.lines ≠ [] := by
            obtain ⟨init, last, _, _, hnext, _⟩ := next.outputLines_eq
            simp [hnext]
          have hne' : (next :: others).flatMap Piece.outputLines ≠ [] := by
            obtain ⟨_, last, k, init', _, hnext, _⟩ := next.outputLines_eq
            simp [hnext]
          rw [isLines_append hne, List.forall_mem_singleton] at h
          rw [isLines_append hne', List.forall_mem_singleton]
          have hlast : last.Complete := h.2.1
          exact ⟨hinit h.1 hlast.fragment, hlast.drop (hk hlast.fragment),
            isLines_outputLines h.2.2⟩

lemma flatten_flatMap_outputLines (pieces : List Piece) :
    (pieces.flatMap Piece.outputLines).flatten = pieces.flatMap Piece.output := by
  induction pieces with
  | nil => rfl
  | cons piece pieces ih =>
      rw [List.flatMap_cons, List.flatten_append, ih, Piece.flatten_outputLines, List.flatMap_cons]

lemma toLines_output {text : List Glyph} {pieces : List Piece}
    (h : toLines text = pieces.flatMap Piece.lines) :
    toLines (pieces.flatMap Piece.output) = pieces.flatMap Piece.outputLines := by
  have hlines : IsLines (pieces.flatMap Piece.outputLines) :=
    isLines_outputLines (h ▸ isLines_toLines text)
  rw [← flatten_flatMap_outputLines, toLines_flatten hlines]

/-! ## Definitions that begin at depth one -/

/-- A line that begins with a closing brace lists it first. -/
lemma exists_structural_drop {line : Line} {c : Nat} (h : line.Structural c .closing) :
    ∃ after, Line.structural (line.drop c) = (0, .closing) :: after := by
  obtain ⟨hlt, hget⟩ := List.getElem?_eq_some_iff.1 h.1
  rw [← Line.braces_eq_structural, List.drop_eq_getElem_cons hlt, hget]
  exact ⟨_, rfl⟩

/-- At depth one the stub is a body that the next line closes at once. -/
lemma closes_stubLines {line : Line} {c : Nat} (h : line.Structural c .closing) :
    Closes 1 stubLines (line.drop c) 0 := by
  obtain ⟨after, hdrop⟩ := exists_structural_drop h
  have hnone : stubLines.flatMap Line.structural = [] := by
    rw [List.flatMap_eq_nil_iff]
    exact fun line hline => structural_of_mem_stubLines hline
  exact ⟨[], after, hdrop, by simp [hnone], by simp [hnone]⟩

/-- The header line that is kept of a line which held its body. -/
lemma Line.Holds.opens {line : Line} {o c : Nat} (h : line.Holds o c) :
    Line.Opens (line.take (o + 1) ++ [lineFeed]) 1 := by
  obtain ⟨before, inner, hsplit, hb, hi⟩ := h.matched
  have hlen : o + 1 ≤ line.length := h.structural.1.lt_length
  have hpair := line.pairwise_structural
  rw [hsplit, List.pairwise_append] at hpair
  have hbefore (x : Nat × Brace) (hx : x ∈ before) : x.1 < o + 1 := by
    have := hpair.2.2 x hx (o, .opening) (by simp)
    omega
  have hafter (x : Nat × Brace) (hx : x ∈ inner ++ [(c, .closing)]) : ¬ x.1 < o + 1 := by
    have := (List.pairwise_cons.1 hpair.2.1).1 x hx
    omega
  have hstructural : Line.structural (line.take (o + 1) ++ [lineFeed]) =
      before ++ [(o, .opening)] := by
    rw [structural_take_append hlen (by intro b; cases b <;> decide), hsplit, List.filter_append,
      List.filter_cons_of_pos (by simp), List.filter_eq_self.2 (by simpa using hbefore),
      List.filter_eq_nil_iff.2 (by simpa using hafter)]
  refine ⟨?_, by simp [hstructural, hb], Nat.one_pos⟩
  have hn := h.neverBelow
  rw [hsplit] at hn
  rw [hstructural]
  refine neverBelow_concat.2 ⟨(neverBelow_append.1 hn).1, ?_⟩
  simp [hb]

/-- It still begins a definition, if the line did. -/
lemma Line.Holds.startsDefinition {line : Line} {o c : Nat} (h : line.Holds o c)
    (hs : line.StartsDefinition) :
    Line.StartsDefinition (line.take (o + 1) ++ [lineFeed]) := by
  obtain ⟨⟨tail, rfl⟩, hword⟩ := hs
  have hkeyword : definitionKeyword.length ≤ o := by
    by_contra hlt
    have hget := h.structural.1.1
    rw [List.getElem?_append_left (by omega)] at hget
    have : Brace.opening.glyph ∈ definitionKeyword := List.mem_of_getElem? hget
    exact absurd this (by decide)
  constructor
  · rw [List.take_append, List.take_of_length_le (by omega), List.append_assoc]
    exact List.prefix_append _ _
  · intro g hg
    have hlen : ((definitionKeyword ++ tail).take (o + 1)).length = o + 1 :=
      List.length_take_of_le h.structural.1.lt_length
    refine hword g ?_
    rwa [List.getElem?_append_left (by omega), List.getElem?_take_of_lt (by omega)] at hg

/-- **A piece again**: what became of a piece whose body begins at depth one is a piece that would
become itself. -/
lemma Piece.again (piece : Piece) (h : piece.LeavesOneOpen) : ∃ again : Piece,
    again.lines = piece.outputLines ∧ again.output = piece.output ∧
      again.isDefinition = piece.isDefinition := by
  cases piece with
  | plain line outside => exact ⟨.plain line outside, rfl, rfl, rfl⟩
  | across header depth opens inside last column closes =>
      obtain rfl : depth = 1 := h
      refine ⟨.across header 1 opens stubLines (last.drop column) 0
        (closes_stubLines closes.structural), ?_, ?_, rfl⟩
      · simp [lines, outputLines]
      · simp [output]
  | within header opening closing holds =>
      have starts (line : Line) (hline : (header.lead ++
          [header.last.take (opening + 1) ++ [lineFeed]]).head? = some line) :
          line.StartsDefinition := by
        cases hlead : header.lead with
        | nil =>
            obtain rfl : header.last.take (opening + 1) ++ [lineFeed] = line := by
              simpa [hlead] using hline
            exact holds.startsDefinition (header.starts _ (by simp [hlead]))
        | cons first others =>
            obtain rfl : first = line := by simpa [hlead] using hline
            exact header.starts _ (by simp [hlead])
      refine ⟨.across ⟨header.lead, _, starts, header.continues⟩ 1 holds.opens stubLines
        (header.last.drop closing) 0 (closes_stubLines holds.structural.2), ?_, ?_, rfl⟩
      · simp [lines, outputLines, Header.lines]
      · simp [output, Header.lines]

/-- A neutralized module whose bodies began at depth one is neutralized to itself. -/
lemma neutralize_output_of_leavesOneOpen {text : List Glyph} {pieces : List Piece}
    (hlines : toLines text = pieces.flatMap Piece.lines)
    (h : ∀ piece ∈ pieces, piece.LeavesOneOpen) :
    neutralize (pieces.flatMap Piece.output) = .ok (neutralizedPieces pieces) := by
  have hagain : ∃ again : List Piece, again.flatMap Piece.lines = pieces.flatMap Piece.outputLines ∧
      neutralizedPieces again = neutralizedPieces pieces := by
    clear hlines
    induction pieces with
    | nil => exact ⟨[], rfl, rfl⟩
    | cons piece pieces ih =>
        obtain ⟨first, hfirst, hout, hdef⟩ := piece.again (h piece (by simp))
        obtain ⟨others, hothers, hrest⟩ := ih fun p hp => h p (List.mem_cons_of_mem _ hp)
        refine ⟨first :: others, by simp [hfirst, hothers], ?_⟩
        simp only [neutralizedPieces, Neutralized.mk.injEq] at hrest
        simp [neutralizedPieces, List.countP_cons, hout, hdef, hrest]
  obtain ⟨again, hsame, hresult⟩ := hagain
  rw [← hresult]
  exact neutralize_of_pieces ((toLines_output hlines).trans hsame.symm)

/-! ## A second run takes away no less than the stub -/

/-- The lines begin with a header whose body begins with the stub. -/
def OpensStub (lines : List Line) : Prop :=
  ∃ lead last depth tail, (∀ line ∈ lead, Line.Continues line) ∧ Line.Opens last depth ∧
    lines = lead ++ last :: (stubLines ++ tail)

/-- Every definition that begins in the lines has a body that begins with the stub. -/
def Stubbed (lines : List Line) : Prop :=
  ∀ line rest, line :: rest <:+ lines → line.StartsDefinition → OpensStub (line :: rest)

lemma Stubbed.suffix {lines rest : List Line} (h : Stubbed lines) (hrest : rest <:+ lines) :
    Stubbed rest :=
  fun line others hsuffix => h line others (hsuffix.trans hrest)

lemma Stubbed.cons {line : Line} {rest : List Line} (h : Stubbed rest)
    (hline : line.StartsDefinition → OpensStub (line :: rest)) : Stubbed (line :: rest) := by
  intro l others hsuffix hstart
  rcases List.suffix_cons_iff.1 hsuffix with heq | hsuffix
  · obtain ⟨rfl, rfl⟩ := List.cons.inj heq
    exact hline hstart
  · exact h l others hsuffix hstart

/-- Lines that begin no definition may stand in front. -/
lemma Stubbed.append {rest : List Line} (h : Stubbed rest) (front : List Line)
    (hfront : ∀ line ∈ front, ¬ Line.StartsDefinition line) : Stubbed (front ++ rest) := by
  induction front with
  | nil => exact h
  | cons line front ih =>
      rw [List.forall_mem_cons] at hfront
      exact (ih hfront.2).cons fun hs => absurd hs hfront.1

/-- So may a header, in front of the stub. -/
lemma Stubbed.header {lead tail : List Line} {last : Line} {depth : Nat}
    (h : Stubbed (stubLines ++ tail)) (hlead : ∀ line ∈ lead, Line.Continues line)
    (hlast : last.Opens depth) : Stubbed (lead ++ last :: (stubLines ++ tail)) := by
  induction lead with
  | nil => exact h.cons fun _ => ⟨[], last, depth, tail, hlead, hlast, rfl⟩
  | cons line lead ih =>
      refine (ih fun l hl => hlead l (List.mem_cons_of_mem _ hl)).cons fun _ => ?_
      exact ⟨line :: lead, last, depth, tail, hlead, hlast, rfl⟩

/-- A line that begins with a brace begins no definition. -/
lemma not_startsDefinition_drop {line : Line} {c : Nat} (h : line.Structural c .closing) :
    ¬ Line.StartsDefinition (line.drop c) := by
  rintro ⟨⟨tail, htail⟩, -⟩
  have hget : (line.drop c)[0]? = some Brace.closing.glyph := by
    rw [List.getElem?_drop]
    exact h.1
  rw [← htail, List.getElem?_append_left (by decide)] at hget
  exact absurd hget (by decide)

/-- **In a neutralized module every header is followed by the stub.** -/
lemma stubbed_outputLines : ∀ pieces : List Piece, Stubbed (pieces.flatMap Piece.outputLines)
  | [] => fun line rest h => by simp at h
  | piece :: pieces => by
      have hrest := stubbed_outputLines pieces
      rw [List.flatMap_cons]
      cases piece with
      | plain line outside => exact hrest.cons fun hs => absurd hs outside
      | across header depth opens inside last column closes =>
          have hclosing := hrest.append [last.drop column]
            (by simpa using not_startsDefinition_drop closes.structural)
          have hstub := hclosing.append _ fun line => not_startsDefinition_of_mem_stubLines
          simpa [Piece.outputLines, Header.lines] using hstub.header header.continues opens
      | within header opening closing holds =>
          have hclosing := hrest.append [header.last.drop closing]
            (by simpa using not_startsDefinition_drop holds.structural.2)
          have hstub := hclosing.append _ fun line => not_startsDefinition_of_mem_stubLines
          simpa [Piece.outputLines] using hstub.header header.continues holds.opens

/-! ## Counting glyphs -/

lemma Line.Opens.not_continues {line : Line} {depth : Nat} (h : line.Opens depth) :
    ¬ line.Continues := by
  intro hc
  have := h.height_eq
  have := h.pos
  have := hc.balanced
  omega

lemma Line.Holds.not_continues {line : Line} {o c : Nat} (h : line.Holds o c) :
    ¬ line.Continues :=
  fun hc => hc.followed c h.getLast? h.ends

/-- A header ends at the first line after which it does not go on. -/
lemma header_unique {last last' : Line} {rest rest' : List Line} (hlast : ¬ last.Continues)
    (hlast' : ¬ last'.Continues) : ∀ {lead lead' : List Line}, (∀ line ∈ lead, line.Continues) →
    (∀ line ∈ lead', Line.Continues line) → lead ++ last :: rest = lead' ++ last' :: rest' →
    lead = lead' ∧ last = last' ∧ rest = rest'
  | [], [], _, _, h => ⟨rfl, List.cons.inj h⟩
  | [], line :: _, _, h', h => absurd ((List.cons.inj h).1 ▸ h' line (by simp)) hlast
  | line :: _, [], h', _, h => absurd ((List.cons.inj h).1 ▸ h' line (by simp)) hlast'
  | line :: lead, line' :: lead', hl, hl', h => by
      obtain ⟨rfl, htail⟩ := List.cons.inj h
      obtain ⟨rfl, hrest⟩ := header_unique hlast hlast' (List.forall_mem_cons.1 hl).2
        (List.forall_mem_cons.1 hl').2 htail
      exact ⟨rfl, hrest⟩

/-- A header begins with a line that starts a definition. -/
lemma Header.exists_start (header : Header) (rest : List Line) :
    ∃ line others, header.lines ++ rest = line :: others ∧ line.StartsDefinition := by
  obtain ⟨line, others, hcons⟩ := List.exists_cons_of_ne_nil
    (show header.lead ++ [header.last] ≠ [] by simp)
  refine ⟨line, others ++ rest, ?_, header.starts line (by simp [hcons])⟩
  rw [Header.lines, hcons, List.cons_append]

lemma Piece.exists_start {piece : Piece} (h : piece.isDefinition = true) (rest : List Line) :
    ∃ line others, piece.lines ++ rest = line :: others ∧ line.StartsDefinition := by
  cases piece with
  | plain line outside => simp [isDefinition] at h
  | across header depth opens inside last column closes =>
      rw [lines, List.append_assoc]
      exact header.exists_start _
  | within header opening closing holds => exact header.exists_start _

lemma Piece.isDefinition_of_starts {piece : Piece} {line : Line} {rest others : List Line}
    (h : piece.lines ++ rest = line :: others) (hs : line.StartsDefinition) :
    piece.isDefinition = true := by
  cases piece with
  | plain line' outside =>
      obtain ⟨rfl, -⟩ := List.cons.inj h
      exact absurd hs outside
  | across | within => rfl

/-- A definition whose header is followed by the stub has a body that begins with the stub. -/
lemma Piece.eq_across {piece : Piece} {rest lead tail : List Line} {last : Line} {depth : Nat}
    (hdef : piece.isDefinition = true) (hlead : ∀ line ∈ lead, Line.Continues line)
    (hlast : last.Opens depth)
    (h : piece.lines ++ rest = lead ++ last :: (stubLines ++ tail)) :
    ∃ header opens inside closing column closes,
      piece = .across header depth opens (stubLines ++ inside) closing column closes ∧
        inside ++ closing :: rest = tail := by
  cases piece with
  | plain line outside => simp [isDefinition] at hdef
  | within header opening closing holds =>
      rw [lines, Header.lines, List.append_assoc, List.singleton_append] at h
      obtain ⟨-, rfl, -⟩ := header_unique holds.not_continues hlast.not_continues
        header.continues hlead h
      have := holds.balanced
      have := hlast.height_eq
      have := hlast.pos
      omega
  | across header depth' opens inside closing column closes =>
      simp only [lines, Header.lines, List.append_assoc, List.singleton_append] at h
      obtain ⟨rfl, rfl, hbody⟩ := header_unique opens.not_continues hlast.not_continues
        header.continues hlead h
      obtain rfl : depth' = depth := by
        have := opens.height_eq.symm.trans hlast.height_eq
        omega
      have hclosing : closing ∉ stubLines := fun hmem => by
        have := Line.mem_structural_iff.2 closes.structural
        simp [structural_of_mem_stubLines hmem] at this
      -- the line that closes the body is no line of the stub, so the body goes beyond the stub
      obtain ⟨tail', rfl⟩ : stubLines <+: inside := by
        have hbody' : inside ++ [closing] <+: stubLines ++ tail := ⟨rest, by simp [← hbody]⟩
        rcases List.prefix_or_prefix_of_prefix hbody' (List.prefix_append stubLines tail)
          with hshort | hlong
        · exact absurd (hshort.subset (by simp)) hclosing
        · rcases List.prefix_concat_iff.1 hlong with heq | hprefix
          · exact absurd (by simp [heq]) hclosing
          · exact hprefix
      refine ⟨header, opens, tail', closing, column, closes, rfl, ?_⟩
      simpa using hbody

/-- Behind the stub, a body loses the lines in between and the glyphs in front of its closing
brace. -/
lemma Piece.length_across (header : Header) {depth column : Nat} (opens) {inside closing}
    (closes : Closes depth (stubLines ++ inside) closing column) :
    (across header depth opens (stubLines ++ inside) closing column closes).output.length +
        (inside.flatten.length + column) =
      (across header depth opens (stubLines ++ inside) closing column
        closes).lines.flatten.length := by
  have := closes.structural.lt_length
  simp only [output, lines, List.flatten_append, List.length_append, List.length_drop,
    List.flatten_cons, List.flatten_nil, List.length_nil, flatten_stubLines]
  omega

/-- **A second run takes away no less than the stub**, since every body it finds begins with it. -/
lemma length_le_of_stubbed : ∀ {pieces : List Piece}, Stubbed (pieces.flatMap Piece.lines) →
    (pieces.flatMap Piece.output).length ≤ (pieces.flatMap Piece.lines).flatten.length
  | [], _ => Nat.le_refl 0
  | piece :: pieces, h => by
      rw [List.flatMap_cons] at h
      have ih := length_le_of_stubbed (h.suffix (List.suffix_append _ _))
      simp only [List.flatMap_cons, List.flatten_append, List.length_append]
      cases hdef : piece.isDefinition with
      | false =>
          cases piece with
          | plain line outside =>
              simp only [Piece.output, Piece.lines, List.flatten_singleton]
              omega
          | across | within => simp [Piece.isDefinition] at hdef
      | true =>
          obtain ⟨line, others, hcons, hstart⟩ :=
            piece.exists_start hdef (pieces.flatMap Piece.lines)
          obtain ⟨lead, last, depth, tail, hlead, hlast, hopens⟩ :=
            h line others (hcons ▸ List.suffix_rfl) hstart
          obtain ⟨header, opens, inside, closing, column, closes, rfl, -⟩ :=
            piece.eq_across hdef hlead hlast (hcons.trans hopens)
          have := Piece.length_across header opens closes
          omega

/-- What follows a piece whose lines are given is cut as it would be alone. -/
lemma exists_pieces_append {pieces : List Piece} {first : Piece} {lines : List Line}
    (h : pieces.flatMap Piece.lines = first.lines ++ lines) :
    ∃ others : List Piece, lines = others.flatMap Piece.lines ∧
      pieces.flatMap Piece.output = first.output ++ others.flatMap Piece.output := by
  have hcut := cutLines_pieces pieces 1
  rw [h, cutLines_piece] at hcut
  cases hlines : cutLines .between (1 + first.lines.length) lines with
  | error failure => simp [hlines, Functor.map, Except.map] at hcut
  | ok parts =>
      rw [hlines] at hcut
      obtain ⟨others, rfl⟩ := restFrom_of_cutLines Position.deep_between hlines
      obtain rfl := Except.ok.inj (hlines.symm.trans (cutLines_pieces others _))
      refine ⟨others, rfl, ?_⟩
      have hsegments := congrArg (List.flatMap Segment.neutralized) (Except.ok.inj hcut)
      simpa [List.flatMap_assoc, Piece.flatMap_segments] using hsegments.symm

/-- A body that begins at depth two or more, and with the stub, is longer than the stub. -/
lemma pos_of_closes {depth column : Nat} {inside rest lines : List Line} {line closing : Line}
    (hdepth : 1 < depth) (closes : Closes depth (stubLines ++ inside) closing column)
    (hline : line ≠ []) (h : inside ++ closing :: rest = line :: lines) :
    0 < inside.flatten.length + column := by
  cases inside with
  | cons first others =>
      obtain ⟨rfl, -⟩ := List.cons.inj h
      have := List.length_pos_iff.2 hline
      simp only [List.flatten_cons, List.length_append]
      omega
  | nil =>
      obtain ⟨before, after, hsplit, -, hheight⟩ := closes
      have hnone : stubLines.flatMap Line.structural = [] := by
        rw [List.flatMap_eq_nil_iff]
        exact fun line hline => structural_of_mem_stubLines hline
      rw [List.append_nil, hnone, List.nil_append] at hheight
      cases before with
      | nil =>
          rw [height_nil] at hheight
          omega
      | cons first others =>
          have hpair := closing.pairwise_structural
          rw [hsplit, List.cons_append] at hpair
          have := (List.pairwise_cons.1 hpair).1 (column, .closing) (by simp)
          omega

/-- **A second run takes away more than the stub** from a body that begins at depth two or
more. -/
lemma length_lt_of_opens {pieces : List Piece} {header : Header} {depth : Nat} {line : Line}
    {rest : List Line} (hstubbed : Stubbed (pieces.flatMap Piece.lines))
    (hopens : header.last.Opens depth) (hdepth : 1 < depth) (hline : line ≠ [])
    (h : pieces.flatMap Piece.lines = header.lines ++ (stubLines ++ line :: rest)) :
    (pieces.flatMap Piece.output).length < (pieces.flatMap Piece.lines).flatten.length := by
  obtain ⟨start, tail, hcons, hstart⟩ := header.exists_start (stubLines ++ line :: rest)
  cases pieces with
  | nil => simp [hcons] at h
  | cons first others =>
      have hothers := length_le_of_stubbed (hstubbed.suffix (List.suffix_append _ _))
      rw [List.flatMap_cons] at h
      have hdef := Piece.isDefinition_of_starts (h.trans hcons) hstart
      rw [Header.lines, List.append_assoc, List.singleton_append] at h
      obtain ⟨header', opens, inside, closing, column, closes, rfl, hbody⟩ :=
        first.eq_across hdef header.continues hopens h
      have := pos_of_closes hdepth closes hline hbody
      have := Piece.length_across header' opens closes
      simp only [List.flatMap_cons, List.flatten_append, List.length_append]
      omega

/-- A module some of whose bodies begin at depth two or more gets shorter in a second run. -/
lemma length_lt_of_not_leavesOneOpen : ∀ {pieces again : List Piece},
    again.flatMap Piece.lines = pieces.flatMap Piece.outputLines →
    (∃ piece ∈ pieces, ¬ piece.LeavesOneOpen) →
    (again.flatMap Piece.output).length < (pieces.flatMap Piece.output).length
  | [], _, _, ⟨_, hmem, _⟩ => by simp at hmem
  | piece :: pieces, again, h, hdeep => by
      by_cases hone : piece.LeavesOneOpen
      · obtain ⟨first, hsame, houtput, -⟩ := piece.again hone
        rw [List.flatMap_cons] at h
        obtain ⟨others, hothers, hcut⟩ := exists_pieces_append (hsame ▸ h)
        have hrest : ∃ piece ∈ pieces, ¬ piece.LeavesOneOpen := by
          obtain ⟨deep, hmem, hnot⟩ := hdeep
          rcases List.mem_cons.1 hmem with rfl | hmem
          · exact absurd hone hnot
          · exact ⟨deep, hmem, hnot⟩
        have ih := length_lt_of_not_leavesOneOpen hothers.symm hrest
        rw [hcut, List.flatMap_cons, houtput, List.length_append, List.length_append]
        omega
      · rw [← flatten_flatMap_outputLines (piece :: pieces), ← h]
        have hstubbed : Stubbed (again.flatMap Piece.lines) := h ▸ stubbed_outputLines _
        cases piece with
        | plain | within => exact absurd trivial hone
        | across header depth opens inside last column closes =>
            have hdepth : 1 < depth := Nat.lt_of_le_of_ne opens.pos (Ne.symm hone)
            have hline : last.drop column ≠ [] := by
              have := closes.structural.lt_length
              simpa using this
            have hlines : again.flatMap Piece.lines = header.lines ++ (stubLines ++
                last.drop column :: pieces.flatMap Piece.outputLines) := by
              rw [h, List.flatMap_cons, Piece.outputLines, List.append_assoc, List.append_assoc]
              rfl
            exact length_lt_of_opens hstubbed opens hdepth hline hlines

/-- **When neutralizing again changes nothing.**  What a text was neutralized to is neutralized to
itself, with the same count, exactly if every body below a header of the text begins at depth
one. -/
theorem neutralize_again_iff {text : List Glyph} {result : Neutralized}
    (h : neutralize text = .ok result) :
    neutralize result.text = .ok result ↔
      ∃ pieces : List Piece, toLines text = pieces.flatMap Piece.lines ∧
        ∀ piece ∈ pieces, piece.LeavesOneOpen := by
  constructor
  · intro hagain
    obtain ⟨pieces, hlines⟩ := exists_pieces h
    obtain rfl := Except.ok.inj (h.symm.trans (neutralize_of_pieces hlines))
    obtain ⟨again, hsame⟩ := exists_pieces hagain
    have hresult := Except.ok.inj (hagain.symm.trans (neutralize_of_pieces hsame))
    refine ⟨pieces, hlines, fun piece hmem => ?_⟩
    by_contra hdeep
    have hlt := length_lt_of_not_leavesOneOpen (hsame.symm.trans (toLines_output hlines))
      ⟨piece, hmem, hdeep⟩
    have htext : pieces.flatMap Piece.output = again.flatMap Piece.output :=
      congrArg Neutralized.text hresult
    rw [htext] at hlt
    exact Nat.lt_irrefl _ hlt
  · rintro ⟨pieces, hlines, hone⟩
    obtain rfl := Except.ok.inj (h.symm.trans (neutralize_of_pieces hlines))
    exact neutralize_output_of_leavesOneOpen hlines hone

/-- So it is with a module of one function. -/
theorem neutralize_again_iff_function : ∃ result : Neutralized,
    neutralize ("define void @f() \x7b\n  ret void\n\x7d\n".toList.map .char) = .ok result ∧
      (neutralize result.text = .ok result ↔ ∃ pieces : List Piece,
        toLines ("define void @f() \x7b\n  ret void\n\x7d\n".toList.map .char) =
          pieces.flatMap Piece.lines ∧ ∀ piece ∈ pieces, piece.LeavesOneOpen) := by
  have h : neutralize ("define void @f() \x7b\n  ret void\n\x7d\n".toList.map .char) =
      .ok ⟨"define void @f() \x7b\nstart:\n  unreachable\n\x7d\n".toList.map .char, 1⟩ := by
    decide +kernel
  exact ⟨_, h, neutralize_again_iff h⟩

/-- A header line that leaves two braces open keeps both of them, and gets one back. -/
theorem not_neutralize_again_of_two_open :
    ¬ ∀ (text : List Glyph) (result : Neutralized),
      neutralize text = .ok result → neutralize result.text = .ok result := by
  intro h
  have hfirst : neutralize ("define void @f() \x7b \x7b\n\x7d\n\x7d\n".toList.map .char) =
      .ok ⟨"define void @f() \x7b \x7b\nstart:\n  unreachable\n\x7d\n".toList.map .char, 1⟩ := by
    decide +kernel
  exact absurd (h _ _ hfirst) (by decide +kernel)

end WasmCoverage.Ir
