import WasmCoverage.Proofs.Ir.HeaderLine
import WasmCoverage.Proofs.Runs

/-!
# The modules that can be neutralized, and what becomes of them

A module of textual IR is a sequence of *pieces*: single lines between definitions, and whole
definitions.  A `Piece` carries the proof that its lines are one, in terms of structural braces
only; nothing in it speaks of the scan.

* A definition begins with a line that starts with the word `define` at column 0.  Its header goes
  on over lines that balance, and ends in one of two ways.
* Either the last header line leaves braces open, and the body lies across the lines below it, up
  to the first brace at which the running depth reaches zero.
* Or the last header line balances and ends in a closing brace, and the body lies within the line,
  between that brace and the one that it matches.

**`neutralize_eq_ok_iff`**: a text can be neutralized exactly if its lines are those of some
pieces, and the result is then the text with the stub in place of every body, together with the
number of definitions.  From pieces to the answer the scan is run over each piece
(`cutLines_piece`); from an answer back to pieces it is the scan's position that tells what the
lines still to come must be (`exists_pieces`).
-/

namespace WasmCoverage.Ir

open WasmCoverage.Text

/-! ## Pieces -/

/-- The header of a definition: the lines `lead`, after each of which it goes on, and the line
`last`. -/
structure Header where
  lead : List Line
  last : Line
  starts : ∀ line, (lead ++ [last]).head? = some line → line.StartsDefinition
  continues : ∀ line ∈ lead, line.Continues

/-- The lines of a header. -/
def Header.lines (header : Header) : List Line :=
  header.lead ++ [header.last]

/-- A body at the given depth runs over the lines `inside` and ends in the line `last`, with the
first brace at which the depth reaches zero. -/
def Closes (depth : Nat) (inside : List Line) (last : Line) (column : Nat) : Prop :=
  ∃ before after, last.structural = before ++ (column, .closing) :: after ∧
    NeverBelow (1 - depth) (inside.flatMap Line.structural ++ before) ∧
    height (inside.flatMap Line.structural ++ before) = 1 - depth

/-- A piece of a module. -/
inductive Piece where
  /-- A line outside every definition. -/
  | plain (line : Line) (outside : ¬ line.StartsDefinition)
  /-- A definition whose body lies across the lines below its header. -/
  | across (header : Header) (depth : Nat) (opens : header.last.Opens depth) (inside : List Line)
      (last : Line) (column : Nat) (closes : Closes depth inside last column)
  /-- A definition whose body lies within the last line of its header. -/
  | within (header : Header) (opening closing : Nat) (holds : header.last.Holds opening closing)

namespace Piece

/-- The lines of a piece. -/
def lines : Piece → List Line
  | plain line _ => [line]
  | across header _ _ inside last _ _ => header.lines ++ (inside ++ [last])
  | within header _ _ _ => header.lines

/-- The text that a piece becomes. -/
def output : Piece → List Glyph
  | plain line _ => line
  | across header _ _ _ last column _ =>
    header.lines.flatten ++ Segment.stub ++ last.drop column
  | within header opening closing _ =>
    header.lead.flatten ++ header.last.take (opening + 1) ++ .char '\n' :: Segment.stub ++
      header.last.drop closing

/-- Is the piece a definition? -/
def isDefinition : Piece → Bool
  | plain _ _ => false
  | _ => true

/-- The segments of a piece. -/
def segments : Piece → List Segment
  | plain line _ => [.kept line]
  | across header _ _ inside last column _ =>
    header.lines.map .kept ++
      [.body (inside.flatten ++ last.take column) false, .kept (last.drop column)]
  | within header opening closing _ =>
    header.lead.map .kept ++
      [.kept (header.last.take (opening + 1)),
        .body ((header.last.take closing).drop (opening + 1)) true,
        .kept (header.last.drop closing)]

lemma flatMap_kept (lines : List Line) :
    (lines.map Segment.kept).flatMap Segment.neutralized = lines.flatten := by
  induction lines with
  | nil => rfl
  | cons line rest ih => simp_all [Segment.neutralized]

lemma countP_kept (lines : List Line) : (lines.map Segment.kept).countP Segment.isBody = 0 := by
  rw [List.countP_eq_zero]
  simp [Segment.isBody]

lemma flatMap_segments (piece : Piece) :
    piece.segments.flatMap Segment.neutralized = piece.output := by
  cases piece <;>
    simp [segments, output, flatMap_kept, Segment.neutralized, Header.lines]

lemma countP_segments (piece : Piece) :
    piece.segments.countP Segment.isBody = if piece.isDefinition then 1 else 0 := by
  cases piece <;>
    simp only [segments, isDefinition, List.countP_append, countP_kept] <;> rfl

end Piece

/-! ## From pieces to the answer -/

lemma cutLines_cons {position after : Position} {number : Nat} {line : Line}
    {parts : List Segment} (rest : List Line)
    (h : cutLine position number line = .ok (parts, after)) :
    cutLines position number (line :: rest) =
      (parts ++ ·) <$> cutLines after (number + 1) rest := by
  simp only [cutLines, h, bind, Except.bind]
  cases cutLines after (number + 1) rest <;> rfl

/-- A header line after which the header goes on is kept. -/
lemma cutHeader_continues {start number : Nat} {line : Line} (h : line.Continues) :
    cutHeader start number line = .ok ([.kept line], .header start) := by
  rw [cutHeader, headerEnd_eq_iff.2 (show HeaderEnd.goesOn.Describes line from h)]

lemma cutHeader_opens {start number depth : Nat} {line : Line} (h : line.Opens depth) :
    cutHeader start number line = .ok ([.kept line], .body start depth []) := by
  rw [cutHeader, headerEnd_eq_iff.2 (show (HeaderEnd.opens depth).Describes line from h)]

lemma cutHeader_holds {start number o c : Nat} {line : Line} (h : line.Holds o c) :
    cutHeader start number line = .ok ([.kept (line.take (o + 1)),
      .body ((line.take c).drop (o + 1)) true, .kept (line.drop c)], .between) := by
  rw [cutHeader, headerEnd_eq_iff.2 (show (HeaderEnd.holds o c).Describes line from h)]

/-- Over header lines after which the header goes on, the scan keeps every line. -/
lemma cutLines_lead (start : Nat) (rest : List Line) : ∀ (lead : List Line) (number : Nat),
    (∀ line ∈ lead, line.Continues) →
    cutLines (.header start) number (lead ++ rest) =
      (lead.map .kept ++ ·) <$> cutLines (.header start) (number + lead.length) rest
  | [], number, _ => by simp
  | line :: lead, number, h => by
      have hline : cutLine (.header start) number line = .ok ([.kept line], .header start) :=
        cutHeader_continues (h line (by simp))
      have ih := cutLines_lead start rest lead (number + 1)
        (fun l hl => h l (List.mem_cons_of_mem _ hl))
      rw [List.cons_append, cutLines_cons _ hline, ih]
      simp [Functor.map_map, Nat.add_right_comm, Nat.add_assoc]

/-- The first line of a header is read as any other of its lines. -/
lemma cutLines_between_header {header : Header} {number : Nat} {rest : List Line} :
    cutLines .between number (header.lines ++ rest) =
      cutLines (.header number) number (header.lines ++ rest) := by
  obtain ⟨lead, last, starts, _⟩ := header
  have first {line : Line} (h : (lead ++ [last]).head? = some line) :
      cutLine .between number line = cutLine (.header number) number line := by
    simp [cutLine, Line.beginsDefinition_iff.2 (starts line h)]
  cases lead with
  | nil => simp only [Header.lines, List.nil_append, List.singleton_append, cutLines, first rfl]
  | cons line lead => simp only [Header.lines, List.cons_append, cutLines, first rfl]

/-- In a body the scan keeps nothing until the body is closed. -/
lemma cutLines_inside (start : Nat) (rest : List Line) : ∀ (inside : List Line) (number : Nat)
    {depth after : Nat} (text : List Glyph),
    NeverBelow (1 - depth) (inside.flatMap Line.structural) →
    height (inside.flatMap Line.structural) = after - depth →
    cutLines (.body start depth text) number (inside ++ rest) =
      cutLines (.body start after (text ++ inside.flatten)) (number + inside.length) rest
  | [], number, depth, after, text, _, hh => by
      obtain rfl : depth = after := by
        rw [List.flatMap_nil, height_nil] at hh
        omega
      simp
  | line :: inside, number, depth, after, text, hn, hh => by
      rw [List.flatMap_cons] at hn hh
      obtain ⟨hline, hinside⟩ := neverBelow_append.1 hn
      have hfloor := hinside.floor_le
      obtain ⟨d, hd⟩ : ∃ d : Nat, height line.structural = d - depth :=
        ⟨(depth + height line.structural).toNat, by omega⟩
      have hcut : cutLine (.body start depth text) number line =
          .ok ([], .body start d (text ++ line)) := by
        simp only [cutLine, Line.braces_eq_structural, bodyEnd_eq_inl hline hd]
      rw [height_append] at hh
      have hfloor' : NeverBelow (1 - d) (inside.flatMap Line.structural) := by
        convert hinside using 1
        omega
      have hrest : height (inside.flatMap Line.structural) = after - d := by omega
      have ih := cutLines_inside start rest inside (number + 1) (text ++ line) hfloor' hrest
      rw [List.cons_append, cutLines_cons _ hcut, ih]
      simp [Nat.add_right_comm, Nat.add_assoc]

/-- A body that begins after a header line is closed where `Closes` says, and becomes one
segment. -/
lemma cutLines_closes {start number depth column : Nat} {inside rest : List Line} {last : Line}
    (h : Closes depth inside last column) :
    cutLines (.body start depth []) number (inside ++ last :: rest) =
      ([.body (inside.flatten ++ last.take column) false, .kept (last.drop column)] ++ ·) <$>
        cutLines .between (number + inside.length + 1) rest := by
  obtain ⟨before, after, hlast, hn, hh⟩ := h
  obtain ⟨hinside, hbefore⟩ := neverBelow_append.1 hn
  rw [height_append] at hh
  have hfloor := hbefore.floor_le
  obtain ⟨d, hd⟩ : ∃ d : Nat, height (inside.flatMap Line.structural) = d - depth :=
    ⟨(depth + height (inside.flatMap Line.structural)).toNat, by omega⟩
  have hend : bodyEnd d last.braces = .inr column := by
    rw [Line.braces_eq_structural, hlast]
    refine bodyEnd_eq_inr ?_ (by omega)
    convert hbefore using 1
    omega
  rw [cutLines_inside _ _ _ _ _ hinside hd, List.nil_append]
  exact cutLines_cons rest (by simp only [cutLine, hend])

/-- **The scan cuts a piece into the segments of that piece**, whatever follows. -/
theorem cutLines_piece (piece : Piece) (number : Nat) (rest : List Line) :
    cutLines .between number (piece.lines ++ rest) =
      (piece.segments ++ ·) <$> cutLines .between (number + piece.lines.length) rest := by
  cases piece with
  | plain line outside =>
      have hline : cutLine .between number line = .ok ([.kept line], .between) := by
        rw [← Line.beginsDefinition_iff] at outside
        simp [cutLine, outside]
      exact cutLines_cons rest hline
  | across header depth opens inside last column closes =>
      have hlast (n : Nat) : cutLine (.header number) n header.last =
          .ok ([.kept header.last], .body number depth []) := cutHeader_opens opens
      rw [Piece.lines, List.append_assoc, cutLines_between_header, Header.lines,
        List.append_assoc, cutLines_lead _ _ _ _ header.continues, List.singleton_append,
        cutLines_cons _ (hlast _), List.append_assoc, List.singleton_append,
        cutLines_closes closes]
      have hlen (n : Nat) : 1 + (n + 1) = n + 2 := by omega
      simp [Piece.segments, Header.lines, Functor.map_map, Nat.add_assoc, hlen]
  | within header opening closing holds =>
      have hlast (n : Nat) : cutLine (.header number) n header.last =
          .ok ([.kept (header.last.take (opening + 1)),
            .body ((header.last.take closing).drop (opening + 1)) true,
            .kept (header.last.drop closing)], .between) := cutHeader_holds holds
      rw [Piece.lines, cutLines_between_header, Header.lines, List.append_assoc,
        cutLines_lead _ _ _ _ header.continues, List.singleton_append, cutLines_cons _ (hlast _)]
      simp [Piece.segments, Functor.map_map, Nat.add_assoc]

/-- **The scan cuts pieces into their segments.** -/
theorem cutLines_pieces : ∀ (pieces : List Piece) (number : Nat),
    cutLines .between number (pieces.flatMap Piece.lines) = .ok (pieces.flatMap Piece.segments)
  | [], _ => rfl
  | piece :: pieces, number => by
      rw [List.flatMap_cons, cutLines_piece, cutLines_pieces pieces]
      rfl

/-- What becomes of a text whose lines are those of some pieces. -/
def neutralizedPieces (pieces : List Piece) : Neutralized :=
  ⟨pieces.flatMap Piece.output, pieces.countP Piece.isDefinition⟩

lemma countP_flatMap_segments (pieces : List Piece) :
    (pieces.flatMap Piece.segments).countP Segment.isBody = pieces.countP Piece.isDefinition := by
  induction pieces with
  | nil => rfl
  | cons piece pieces ih =>
      rw [List.flatMap_cons, List.countP_append, ih, Piece.countP_segments, List.countP_cons]
      omega

lemma neutralize_of_pieces {text : List Glyph} {pieces : List Piece}
    (h : toLines text = pieces.flatMap Piece.lines) :
    neutralize text = .ok (neutralizedPieces pieces) := by
  have hparts : Ir.segments text = .ok (pieces.flatMap Piece.segments) := by
    rw [Ir.segments, h, cutLines_pieces]
  simp only [neutralize, hparts, neutralizedPieces, ← countP_flatMap_segments]
  rw [← funext Piece.flatMap_segments, ← List.flatMap_assoc]
  rfl

/-! ## From an answer to pieces -/

/-- The lines begin with the rest of a body at the given depth; pieces follow. -/
def RestOfBody (depth : Nat) (lines : List Line) : Prop :=
  ∃ inside last column, ∃ pieces : List Piece, Closes depth inside last column ∧
    lines = inside ++ last :: pieces.flatMap Piece.lines

/-- The lines begin with the rest of a header, and of its body if it is below; pieces follow. -/
def RestOfHeader (lines : List Line) : Prop :=
  ∃ lead last rest, (∀ line ∈ lead, line.Continues) ∧ lines = lead ++ last :: rest ∧
    ((∃ depth, last.Opens depth ∧ RestOfBody depth rest) ∨
      ∃ o c, ∃ pieces : List Piece, last.Holds o c ∧ rest = pieces.flatMap Piece.lines)

/-- What the lines still to come must be, by where the scan stands. -/
def RestFrom : Position → List Line → Prop
  | .between, lines => ∃ pieces : List Piece, lines = pieces.flatMap Piece.lines
  | .header _, lines => RestOfHeader lines
  | .body _ depth _, lines => RestOfBody depth lines

/-- The rest of a header behind its first line is a whole definition. -/
lemma RestOfHeader.pieces {lines : List Line} (h : RestOfHeader lines)
    (hstart : ∀ line, lines.head? = some line → line.StartsDefinition) :
    ∃ pieces : List Piece, lines = pieces.flatMap Piece.lines := by
  obtain ⟨lead, last, rest, hlead, rfl, hbody⟩ := h
  let header : Header :=
    ⟨lead, last, fun line hline => hstart line (by cases lead <;> simp_all), hlead⟩
  rcases hbody with ⟨depth, hopens, inside, closing, column, pieces, hcloses, rfl⟩ |
    ⟨o, c, pieces, hholds, rfl⟩
  · refine ⟨.across header depth hopens inside closing column hcloses :: pieces, ?_⟩
    simp [Piece.lines, Header.lines, header]
  · refine ⟨.within header o c hholds :: pieces, ?_⟩
    simp [Piece.lines, Header.lines, header]

/-- One header line, and the rest behind it. -/
lemma RestOfHeader.step {start number : Nat} {line : Line} {parts : List Segment}
    {after : Position} {rest : List Line}
    (hcut : cutHeader start number line = .ok (parts, after)) (h : RestFrom after rest) :
    RestOfHeader (line :: rest) := by
  have hmeaning := headerEnd_eq_iff.1 (rfl : headerEnd line 0 none line.braces = _)
  simp only [cutHeader] at hcut
  split at hcut
  · next hend =>
      rw [hend] at hmeaning
      obtain ⟨-, rfl⟩ := Prod.mk.inj (Except.ok.inj hcut)
      obtain ⟨lead, last, rest, hlead, rfl, hbody⟩ := h
      refine ⟨line :: lead, last, rest, ?_, rfl, hbody⟩
      exact List.forall_mem_cons.2 ⟨hmeaning, hlead⟩
  · next depth hend =>
      rw [hend] at hmeaning
      obtain ⟨-, rfl⟩ := Prod.mk.inj (Except.ok.inj hcut)
      exact ⟨[], line, rest, by simp, rfl, Or.inl ⟨depth, hmeaning, h⟩⟩
  · next o c hend =>
      rw [hend] at hmeaning
      obtain ⟨-, rfl⟩ := Prod.mk.inj (Except.ok.inj hcut)
      obtain ⟨pieces, rfl⟩ := h
      exact ⟨[], line, _, by simp, rfl, Or.inr ⟨o, c, pieces, hmeaning, rfl⟩⟩
  · simp at hcut

/-- A body that is closed further on is closed as well if one more line lies inside. -/
lemma Closes.cons {depth d column : Nat} {line last : Line} {inside : List Line}
    (hn : NeverBelow (1 - depth) line.structural) (hh : height line.structural = d - depth)
    (h : Closes d inside last column) : Closes depth (line :: inside) last column := by
  obtain ⟨before, after, hlast, hn', hh'⟩ := h
  refine ⟨before, after, hlast, ?_, ?_⟩
  · rw [List.flatMap_cons, List.append_assoc]
    refine neverBelow_append.2 ⟨hn, ?_⟩
    convert hn' using 1
    omega
  · rw [List.flatMap_cons, List.append_assoc, height_append, hh, hh']
    omega

/-- One body line after which the body goes on, and the rest behind it. -/
lemma RestOfBody.step {depth d : Nat} {line : Line} {rest : List Line}
    (hn : NeverBelow (1 - depth) line.structural) (hh : height line.structural = d - depth)
    (h : RestOfBody d rest) : RestOfBody depth (line :: rest) := by
  obtain ⟨inside, last, column, pieces, hcloses, rfl⟩ := h
  exact ⟨line :: inside, last, column, pieces, hcloses.cons hn hh, rfl⟩

/-- In a body the depth is positive. -/
def Position.Deep : Position → Prop
  | .body _ depth _ => 0 < depth
  | _ => True

lemma Position.deep_between : Position.between.Deep := trivial

lemma Position.deep_of_cutHeader {start number : Nat} {line : Line} {parts : List Segment}
    {after : Position} (h : cutHeader start number line = .ok (parts, after)) : after.Deep := by
  simp only [cutHeader] at h
  split at h
  · obtain ⟨-, rfl⟩ := Prod.mk.inj (Except.ok.inj h)
    trivial
  · next depth hend =>
      obtain ⟨-, rfl⟩ := Prod.mk.inj (Except.ok.inj h)
      exact (headerEnd_eq_iff.1 hend).pos
  · obtain ⟨-, rfl⟩ := Prod.mk.inj (Except.ok.inj h)
    trivial
  · simp at h

/-- **What the scan could cut begins with what its position calls for.** -/
theorem restFrom_of_cutLines {position : Position} {number : Nat} {lines : List Line}
    {parts : List Segment} (hdeep : position.Deep)
    (h : cutLines position number lines = .ok parts) : RestFrom position lines := by
  induction lines generalizing position number parts with
  | nil =>
      cases position with
      | between => exact ⟨[], rfl⟩
      | header start => simp [cutLines] at h
      | body start depth text => simp [cutLines] at h
  | cons line rest ih =>
      obtain ⟨⟨first, after⟩, hline, hrest⟩ := bind_eq_ok_iff.1 h
      obtain ⟨others, hrest, -⟩ := bind_eq_ok_iff.1 hrest
      cases position with
      | between =>
          simp only [cutLine] at hline
          split at hline
          · next hstart =>
              have hrest' := ih (Position.deep_of_cutHeader hline) hrest
              refine (RestOfHeader.step hline hrest').pieces fun l hl => ?_
              obtain rfl : line = l := by simpa using hl
              exact Line.beginsDefinition_iff.1 hstart
          · next hstart =>
              obtain ⟨-, rfl⟩ := Prod.mk.inj (Except.ok.inj hline)
              obtain ⟨pieces, rfl⟩ := ih Position.deep_between hrest
              have outside : ¬ line.StartsDefinition := by
                rwa [← Line.beginsDefinition_iff]
              exact ⟨.plain line outside :: pieces, rfl⟩
      | header start =>
          exact RestOfHeader.step hline (ih (Position.deep_of_cutHeader hline) hrest)
      | body start depth text =>
          have hanswer : BodyAnswer depth line.structural (bodyEnd depth line.structural) :=
            bodyAnswer_bodyEnd hdeep
          simp only [cutLine, Line.braces_eq_structural] at hline
          split at hline
          · next d hend =>
              rw [hend] at hanswer
              obtain ⟨-, rfl⟩ := Prod.mk.inj (Except.ok.inj hline)
              have := hanswer.1.height_le
              have hd : (Position.body start d (text ++ line)).Deep := by
                have := hanswer.2
                simp only [Position.Deep]
                omega
              exact RestOfBody.step hanswer.1 hanswer.2 (ih hd hrest)
          · next column hend =>
              rw [hend] at hanswer
              obtain ⟨before, after, hsplit, hn, hh⟩ := hanswer
              obtain ⟨-, rfl⟩ := Prod.mk.inj (Except.ok.inj hline)
              obtain ⟨pieces, rfl⟩ := ih Position.deep_between hrest
              exact ⟨[], line, column, pieces, ⟨before, after, hsplit, hn, hh⟩, rfl⟩

/-- A text that can be neutralized has the lines of some pieces. -/
lemma exists_pieces {text : List Glyph} {result : Neutralized}
    (h : neutralize text = .ok result) :
    ∃ pieces : List Piece, toLines text = pieces.flatMap Piece.lines := by
  obtain ⟨parts, hparts, -⟩ := bind_eq_ok_iff.1 h
  exact restFrom_of_cutLines Position.deep_between hparts

/-- **What can be neutralized, and the result.**  A text can be neutralized exactly if its lines
are those of a sequence of pieces.  Then the result is the text with the stub in place of every
body, and the number of definitions. -/
theorem neutralize_eq_ok_iff {text : List Glyph} {result : Neutralized} :
    neutralize text = .ok result ↔
      ∃ pieces : List Piece, toLines text = pieces.flatMap Piece.lines ∧
        result = ⟨pieces.flatMap Piece.output, pieces.countP Piece.isDefinition⟩ := by
  constructor
  · intro h
    obtain ⟨pieces, hpieces⟩ := exists_pieces h
    refine ⟨pieces, hpieces, ?_⟩
    rw [neutralize_of_pieces hpieces] at h
    exact (Except.ok.inj h).symm
  · rintro ⟨pieces, hpieces, rfl⟩
    exact neutralize_of_pieces hpieces

end WasmCoverage.Ir
