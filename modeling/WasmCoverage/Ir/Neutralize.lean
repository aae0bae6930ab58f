import WasmCoverage.Ir.Line

/-!
# Neutralizing function bodies

Every function defined in a module of textual IR keeps its header, but its body becomes

```text
start:
  unreachable
```

The coverage counters and mapping records live in global data, so the neutralized module still
compiles to an object that the report tool can symbolize, while none of its functions can run.

A module is first cut into segments (`segments`): text that is kept, and function bodies.  Then
the stub is put in place of each body.  What is kept and dropped, put together again in order, is
the module itself (`input_segments`); and the count is the number of bodies.

The cut goes line by line.  Between definitions every line is kept.  A definition's header ends
with the first line after which the depth of braces is positive; braces balanced within the
header, such as those of a struct type, open no body.  A body that is opened and closed on one
header line is recognised by its closing brace ending that line.
-/

namespace WasmCoverage.Ir

open WasmCoverage.Text

/-! ## What can be wrong with a module -/

/-- Why a module cannot be cut into segments. -/
inductive CutFault where
  /-- A closing brace at the 1-based `line` closes nothing. -/
  | strayClosing (line : Nat)
  /-- The definition begun at the 1-based `line` has no body, or one that never closes. -/
  | noBody (line : Nat)
  deriving DecidableEq, Repr

/-- The wording of a fault.  The brace in it is written by its code, U+007D. -/
def CutFault.message : CutFault → String
  | .strayClosing line => "Unbalanced '" ++ "\x7d" ++ "' at line " ++ toString line
  | .noBody line => "Unbalanced braces in function defined at line " ++ toString line

/-! ## Segments -/

/-- A stretch of a module. -/
inductive Segment where
  /-- Text outside function bodies. -/
  | kept (text : List Glyph)
  /-- The body of a function; `inline` if it was closed on the header line that opened it. -/
  | body (text : List Glyph) (inline : Bool)
  deriving DecidableEq, Repr

namespace Segment

/-- What the module had there. -/
def input : Segment → List Glyph
  | kept text => text
  | body text _ => text

/-- The body that every function gets. -/
def stub : List Glyph :=
  "start:\n  unreachable\n".toList.map .char

/-- What the neutralized module has there.  The stub begins on a line of its own. -/
def neutralized : Segment → List Glyph
  | kept text => text
  | body _ inline => if inline then .char '\n' :: stub else stub

/-- Is the segment a function body? -/
def isBody : Segment → Bool
  | kept _ => false
  | body _ _ => true

end Segment

/-! ## Scanning one line -/

/-- How a header line leaves the scan. -/
inductive HeaderEnd where
  /-- Balanced: the header goes on. -/
  | goesOn
  /-- The body begins after this line, at the given depth. -/
  | opens (depth : Nat)
  /-- The body lies between the two braces, at these columns. -/
  | holds (opening closing : Nat)
  /-- A closing brace closes nothing. -/
  | stray
  deriving DecidableEq, Repr

/-- The end of a header line, from the given depth on; `opened` is the column at which the depth
last left zero. -/
def headerEnd (line : Line) (depth : Nat) (opened : Option Nat) : List (Nat × Brace) → HeaderEnd
  | [] => if depth = 0 then .goesOn else .opens depth
  | (column, .opening) :: rest =>
    headerEnd line (depth + 1) (if depth = 0 then some column else opened) rest
  | (column, .closing) :: rest =>
    match depth, opened with
    | 0, _ => .stray
    | 1, some start =>
      if line.endsAfter column then .holds start column else headerEnd line 0 opened rest
    | depth + 1, _ => headerEnd line depth opened rest

/-- How a body line leaves the scan: the depth after it, or the column of the brace that closes
the body. -/
def bodyEnd (depth : Nat) : List (Nat × Brace) → Nat ⊕ Nat
  | [] => .inl depth
  | (_, .opening) :: rest => bodyEnd (depth + 1) rest
  | (column, .closing) :: rest => if depth ≤ 1 then .inr column else bodyEnd (depth - 1) rest

/-! ## Cutting a module -/

/-- Where the scan stands between two lines. -/
inductive Position where
  /-- Outside every definition. -/
  | between
  /-- In the header of the definition begun at this line, at depth zero. -/
  | header (start : Nat)
  /-- In the body of the definition begun at `start`, at a positive depth, after `text`. -/
  | body (start depth : Nat) (text : List Glyph)

/-- The segments of a header line and where the scan stands after it. -/
def cutHeader (start number : Nat) (line : Line) : Except CutFault (List Segment × Position) :=
  match headerEnd line 0 none line.braces with
  | .goesOn => .ok ([.kept line], .header start)
  | .opens depth => .ok ([.kept line], .body start depth [])
  | .holds opening closing =>
    .ok ([.kept (line.take (opening + 1)),
        .body ((line.take closing).drop (opening + 1)) true,
        .kept (line.drop closing)], .between)
  | .stray => .error (.strayClosing number)

/-- The segments of the 1-based line `number` and where the scan stands after it. -/
def cutLine (position : Position) (number : Nat) (line : Line) :
    Except CutFault (List Segment × Position) :=
  match position with
  | .between =>
    if line.beginsDefinition then cutHeader number number line else .ok ([.kept line], .between)
  | .header start => cutHeader start number line
  | .body start depth text =>
    match bodyEnd depth line.braces with
    | .inl depth => .ok ([], .body start depth (text ++ line))
    | .inr closing =>
      .ok ([.body (text ++ line.take closing) false, .kept (line.drop closing)], .between)

/-- The segments of the lines from the 1-based line `number` on. -/
def cutLines (position : Position) (number : Nat) : List Line → Except CutFault (List Segment)
  | [] =>
    match position with
    | .between => .ok []
    | .header start => .error (.noBody start)
    | .body start _ _ => .error (.noBody start)
  | line :: rest => do
    let (segments, position) ← cutLine position number line
    return segments ++ (← cutLines position (number + 1) rest)

/-- The segments of a module. -/
def segments (text : List Glyph) : Except CutFault (List Segment) :=
  cutLines .between 1 (toLines text)

/-! ## Neutralizing -/

/-- A neutralized module. -/
structure Neutralized where
  text : List Glyph
  /-- How many function bodies were replaced. -/
  count : Nat
  deriving DecidableEq, Repr

/-- The module with every function body replaced by the stub. -/
def neutralize (text : List Glyph) : Except CutFault Neutralized := do
  let parts ← segments text
  return ⟨parts.flatMap Segment.neutralized, parts.countP Segment.isBody⟩

/-- The octets of a module with every function body replaced by the stub.  An octet that belongs
to no character is kept as it is. -/
def neutralizeOctets (octets : Octets) : Except CutFault (Octets × Nat) := do
  let result ← neutralize (Glyph.decode octets)
  return (Glyph.encode result.text, result.count)

/-! ## Nothing is lost -/

/-- The text that the scan has read and not yet put into a segment. -/
def Position.pending : Position → List Glyph
  | between => []
  | header _ => []
  | body _ _ text => text

theorem lt_of_headerEnd_holds {line : Line} {o c : Nat} {braces : List (Nat × Brace)}
    {depth : Nat} {opened : Option Nat}
    (sorted : braces.Pairwise (·.1 < ·.1)) (before : ∀ i ∈ opened, ∀ b ∈ braces, i < b.1)
    (h : headerEnd line depth opened braces = .holds o c) : o < c := by
  fun_induction headerEnd line depth opened braces with
  | case1 => simp at h
  | case2 => simp at h
  | case3 depth opened column rest ih =>
    simp only [List.pairwise_cons] at sorted
    refine ih sorted.2 ?_ h
    intro i hi b hb
    by_cases hd : depth = 0
    · simp only [hd, if_true, Option.mem_def, Option.some.injEq] at hi
      subst hi
      exact sorted.1 b hb
    · simp only [hd, if_false] at hi
      exact before i hi b (List.mem_cons_of_mem _ hb)
  | case4 => simp at h
  | case5 column rest start hends =>
    simp only [HeaderEnd.holds.injEq] at h
    obtain ⟨rfl, rfl⟩ := h
    exact before start rfl (column, .closing) (by simp)
  | case6 column rest start _ ih =>
    simp only [List.pairwise_cons] at sorted
    exact ih sorted.2 (fun i hi b hb => before i hi b (List.mem_cons_of_mem _ hb)) h
  | case7 opened column rest depth _ ih =>
    simp only [List.pairwise_cons] at sorted
    exact ih sorted.2 (fun i hi b hb => before i hi b (List.mem_cons_of_mem _ hb)) h

theorem pairwise_bracesFrom (inString : Bool) (column : Nat) (line : Line) :
    (Line.bracesFrom inString column line).Pairwise (·.1 < ·.1) := by
  induction line generalizing inString column with
  | nil => simp [Line.bracesFrom]
  | cons g rest ih =>
    have above (b : Nat × Brace) (hb : b ∈ Line.bracesFrom false (column + 1) rest) :
        column < b.1 := (Line.column_of_mem_bracesFrom hb).1
    simp only [Line.bracesFrom]
    split
    · exact ih _ _
    · split
      · exact ih _ _
      · split
        · simp
        · split
          · exact List.pairwise_cons.2 ⟨above, ih _ _⟩
          · split
            · exact List.pairwise_cons.2 ⟨above, ih _ _⟩
            · exact ih _ _

theorem input_cutHeader {start number : Nat} {line : Line} {parts : List Segment}
    {after : Position} (h : cutHeader start number line = .ok (parts, after)) :
    parts.flatMap Segment.input ++ after.pending = line := by
  simp only [cutHeader] at h
  split at h
  · simp only [Except.ok.injEq, Prod.mk.injEq] at h
    obtain ⟨rfl, rfl⟩ := h
    simp [Segment.input, Position.pending]
  · simp only [Except.ok.injEq, Prod.mk.injEq] at h
    obtain ⟨rfl, rfl⟩ := h
    simp [Segment.input, Position.pending]
  · next opening closing hends =>
    have hlt : opening < closing :=
      lt_of_headerEnd_holds (pairwise_bracesFrom _ _ _) (by simp) hends
    simp only [Except.ok.injEq, Prod.mk.injEq] at h
    obtain ⟨rfl, rfl⟩ := h
    simp only [List.flatMap_cons, List.flatMap_nil, Segment.input, Position.pending,
      List.append_nil]
    rw [← List.append_assoc, show line.take (opening + 1) =
      (line.take closing).take (opening + 1) by rw [List.take_take, Nat.min_eq_left hlt],
      List.take_append_drop, List.take_append_drop]
  · simp at h

theorem input_cutLine {position after : Position} {number : Nat} {line : Line}
    {parts : List Segment} (h : cutLine position number line = .ok (parts, after)) :
    parts.flatMap Segment.input ++ after.pending = position.pending ++ line := by
  simp only [cutLine] at h
  split at h
  · split at h
    · simpa [Position.pending] using input_cutHeader h
    · simp only [Except.ok.injEq, Prod.mk.injEq] at h
      obtain ⟨rfl, rfl⟩ := h
      simp [Segment.input, Position.pending]
  · simpa [Position.pending] using input_cutHeader h
  · split at h
    · simp only [Except.ok.injEq, Prod.mk.injEq] at h
      obtain ⟨rfl, rfl⟩ := h
      simp [Position.pending]
    · simp only [Except.ok.injEq, Prod.mk.injEq] at h
      obtain ⟨rfl, rfl⟩ := h
      simp [Segment.input, Position.pending]

theorem input_cutLines {position : Position} {number : Nat} {lines : List Line}
    {parts : List Segment} (h : cutLines position number lines = .ok parts) :
    parts.flatMap Segment.input = position.pending ++ lines.flatten := by
  induction lines generalizing position number parts with
  | nil =>
    simp only [cutLines] at h
    split at h
    · simp only [Except.ok.injEq] at h
      subst h
      simp [Position.pending]
    · simp at h
    · simp at h
  | cons line rest ih =>
    simp only [cutLines, bind, Except.bind] at h
    split at h
    · simp at h
    · next result hline =>
      obtain ⟨first, after⟩ := result
      simp only at h
      split at h
      · simp at h
      · next others hrest =>
        simp only [pure, Except.pure, Except.ok.injEq] at h
        subst h
        rw [List.flatMap_append, ih hrest, ← List.append_assoc, input_cutLine hline]
        simp

/-- **The segments of a module, put together again, are the module.** -/
theorem input_segments {text : List Glyph} {parts : List Segment}
    (h : segments text = .ok parts) : parts.flatMap Segment.input = text := by
  rw [input_cutLines h]
  simp [Position.pending, flatten_toLines]

end WasmCoverage.Ir
