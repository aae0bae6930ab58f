import WasmCoverage.Proofs.Json.Layout
import WasmCoverage.Proofs.Path.Names
import WasmCoverage.Summary.Markdown

/-!
# The shape of tables

A table keeps its shape if its rows are read back from the lines of the document: one line per row,
and in each line the fields of the row between bars that no backslash stands before (`IsRow`).

Escaping bars is enough for that unless a cell holds a line feed, which splits the row, or ends in
a backslash, which takes the bar behind the cell along.  A table keeps its shape exactly if no cell
does either (`keepsShape_table_iff`).  In the tables of summaries only messages are put on one line,
so that names and ways to objects can split a row, and all texts can end in a backslash:
**`tables_keep_shape`** and `not_keepsShape_of_split_name`.
-/

namespace WasmCoverage.Text

variable {α : Type} [DecidableEq α] {separator : α}

/-! ## Cutting at every separator -/

/-- **What stands before a separator and what stands behind it are cut on their own.** -/
theorem splitOn_append_separator (before after : List α) :
    splitOn separator (before ++ separator :: after) =
      splitOn separator before ++ splitOn separator after := by
  induction before with
  | nil => simp [splitOn]
  | cons x before ih =>
    rw [List.cons_append, splitOn, splitOn]
    split
    · rw [ih, List.cons_append]
    · obtain ⟨piece, pieces, hpieces⟩ :=
        List.exists_cons_of_ne_nil (splitOn_ne_nil separator before)
      rw [ih, hpieces]
      rfl

/-- There is one piece more than separators. -/
lemma length_splitOn (l : List α) : (splitOn separator l).length = l.count separator + 1 := by
  induction l with
  | nil => rfl
  | cons x l ih =>
    rw [splitOn, List.count_cons]
    split
    · simp [*]
    · obtain ⟨piece, pieces, hpieces⟩ := List.exists_cons_of_ne_nil (splitOn_ne_nil separator l)
      rw [hpieces] at ih ⊢
      simp_all

end WasmCoverage.Text

namespace WasmCoverage.Markdown

open WasmCoverage.Text

/-! ## Lines -/

/-- The lines of a text. -/
def linesOf (text : String) : List (List Char) :=
  splitOn '\n' text.toList

lemma linesOf_of_notMem {text : String} (h : '\n' ∉ text.toList) : linesOf text = [text.toList] :=
  splitOn_of_not_mem h

lemma length_linesOf (text : String) : (linesOf text).length = text.toList.count '\n' + 1 :=
  length_splitOn text.toList

/-- **Lines that are written one after the other** are the lines of each, and an empty one. -/
theorem linesOf_join (texts : List String) :
    linesOf (String.join (texts.map fun text => text ++ "\n")) =
      texts.flatMap linesOf ++ [[]] := by
  rw [linesOf, String.toList_join]
  induction texts with
  | nil => rfl
  | cons text texts ih =>
    have hline : (text ++ "\n").toList = text.toList ++ ['\n'] := String.toList_append
    rw [List.map_cons, List.flatMap_cons, hline, List.append_assoc, List.singleton_append,
      splitOn_append_separator, ih, List.flatMap_cons, List.append_assoc]
    rfl

lemma flatMap_linesOf {texts : List String} (h : ∀ text ∈ texts, '\n' ∉ text.toList) :
    texts.flatMap linesOf = texts.map String.toList := by
  rw [← List.flatMap_singleton' (texts.map String.toList), List.flatMap_map]
  exact List.flatMap_congr fun text htext => linesOf_of_notMem (h text htext)

lemma length_le_flatMap_linesOf (texts : List String) :
    texts.length ≤ (texts.flatMap linesOf).length := by
  induction texts with
  | nil => exact Nat.le_refl 0
  | cons text texts ih =>
    simp only [List.flatMap_cons, List.length_append, List.length_cons, length_linesOf]
    omega

/-- If there are no more lines than texts, no text has a line feed. -/
lemma notMem_of_length_le {texts : List String}
    (h : (texts.flatMap linesOf).length ≤ texts.length) : ∀ text ∈ texts, '\n' ∉ text.toList := by
  induction texts with
  | nil => simp
  | cons text texts ih =>
    have hrest := length_le_flatMap_linesOf texts
    simp only [List.flatMap_cons, List.length_append, List.length_cons, length_linesOf] at h
    exact List.forall_mem_cons.2 ⟨List.count_eq_zero.1 (by omega), ih (by omega)⟩

/-! ## Cells -/

/-- The pieces of a line between bars that no backslash stands before; does one stand before the
line? -/
def cutAtBars : Bool → List Char → List (List Char)
  | _, [] => [[]]
  | escaped, c :: rest =>
    if c = '|' ∧ escaped = false then [] :: cutAtBars false rest
    else (cutAtBars (c = '\\') rest).modifyHead (c :: ·)

/-- The text of a cell without the backslashes before bars. -/
def unescape : List Char → List Char
  | [] => []
  | c :: rest => if c = '\\' ∧ rest.head? = some '|' then unescape rest else c :: unescape rest

/-- Does the text end in a backslash? -/
def Trails (text : List Char) : Prop :=
  text.getLast? = some '\\'

instance (text : List Char) : Decidable (Trails text) :=
  inferInstanceAs (Decidable (text.getLast? = some '\\'))

/-- The characters of a cell, each bar with a backslash before it. -/
def escaped (cell : List Char) : List Char :=
  cell.flatMap fun c => if c = '|' then ['\\', '|'] else [c]

lemma toList_escapeCell (cell : String) : (escapeCell cell).toList = escaped cell.toList :=
  String.toList_ofList

lemma escaped_cons (c : Char) (cell : List Char) :
    escaped (c :: cell) = (if c = '|' then ['\\', '|'] else [c]) ++ escaped cell :=
  rfl

lemma mem_escaped {c : Char} (hc : c ≠ '\\') {cell : List Char} : c ∈ escaped cell ↔ c ∈ cell := by
  simp only [escaped, List.mem_flatMap]
  constructor
  · rintro ⟨d, hd, hmem⟩
    split at hmem <;> simp_all
  · intro h
    exact ⟨c, h, by split <;> simp_all⟩

lemma head?_escaped (cell : List Char) : (escaped cell).head? ≠ some '|' := by
  cases cell with
  | nil => simp [escaped]
  | cons c cell =>
    rw [escaped_cons]
    split <;> simp_all

/-- **Escaping is undone.** -/
theorem unescape_escaped (cell : List Char) : unescape (escaped cell) = cell := by
  induction cell with
  | nil => rfl
  | cons c cell ih =>
    rw [escaped_cons]
    split
    · next hc => simp [unescape, ih, hc]
    · next hc => simp [unescape, ih, head?_escaped]

/-- Does a backslash stand before what follows a text? -/
def escapes (before : Bool) (text : List Char) : Bool :=
  text.foldl (fun _ c => c = '\\') before

lemma escapes_false (text : List Char) : escapes false text = true ↔ Trails text := by
  induction text using List.reverseRecOn with
  | nil => simp [escapes, Trails]
  | append_singleton text c _ => simp [escapes, Trails]

/-- No bar of an escaped cell is cut at. -/
lemma cutAtBars_escaped (before : Bool) (cell rest : List Char) :
    cutAtBars before (escaped cell ++ rest) =
      (cutAtBars (escapes before cell) rest).modifyHead (escaped cell ++ ·) := by
  induction cell generalizing before with
  | nil => exact (congrFun List.modifyHead_id _).symm
  | cons c cell ih =>
    rw [escaped_cons, List.append_assoc]
    split
    · next hc =>
      subst hc
      simp [cutAtBars, ih, escapes, List.modifyHead_modifyHead, Function.comp_def]
    · next hc =>
      simp [cutAtBars, hc, ih, escapes, List.modifyHead_modifyHead, Function.comp_def]

/-- The characters of the cells of a row. -/
def cellsText (cells : List String) : List Char :=
  cells.flatMap fun cell => escaped cell.toList ++ ['|']

lemma toList_row (cells : List String) : (row cells).toList = '|' :: cellsText cells := by
  simp [row, cellsText, String.toList_join, List.flatMap_map, toList_escapeCell]

/-- A cell that ends in a backslash takes the bar behind it along. -/
lemma cutAtBars_cell (cell rest : List Char) :
    cutAtBars false (escaped cell ++ '|' :: rest) =
      if Trails cell then (cutAtBars false rest).modifyHead (escaped cell ++ ['|'] ++ ·)
      else escaped cell :: cutAtBars false rest := by
  rw [cutAtBars_escaped]
  by_cases h : Trails cell
  · rw [if_pos h, (escapes_false cell).2 h]
    simp [cutAtBars, List.modifyHead_modifyHead, Function.comp_def]
  · have hescapes : escapes false cell = false := by
      rwa [← Bool.not_eq_true, escapes_false]
    rw [if_neg h, hescapes]
    simp [cutAtBars]

/-- **Cells that do not end in a backslash are found again.** -/
theorem cutAtBars_cellsText {cells : List String} (h : ∀ cell ∈ cells, ¬Trails cell.toList) :
    cutAtBars false (cellsText cells) = (cells.map fun cell => escaped cell.toList) ++ [[]] := by
  induction cells with
  | nil => rfl
  | cons cell cells ih =>
    obtain ⟨hcell, hcells⟩ := List.forall_mem_cons.1 h
    rw [cellsText, List.flatMap_cons, List.append_assoc, List.singleton_append, cutAtBars_cell,
      if_neg hcell, ← cellsText, ih hcells]
    rfl

/-- **Each cell that ends in a backslash is a piece less.** -/
theorem length_cutAtBars_cellsText (cells : List String) :
    (cutAtBars false (cellsText cells)).length + cells.countP (fun cell => Trails cell.toList) =
      cells.length + 1 := by
  induction cells with
  | nil => rfl
  | cons cell cells ih =>
    rw [cellsText, List.flatMap_cons, List.append_assoc, List.singleton_append, cutAtBars_cell,
      ← cellsText, List.countP_cons]
    split
    · next h => simp only [List.length_modifyHead, h, decide_true, if_true, List.length_cons]; omega
    · next h => simp only [h, decide_false, Bool.false_eq_true, if_false, List.length_cons]; omega

/-! ## Rows -/

/-- A line carries fields: cut at the bars that no backslash stands before it has some cells
between the outer bars, and these are the fields. -/
def IsRow (columns : Nat) (line : List Char) (fields : List String) : Prop :=
  ∃ cells, cutAtBars false line = [] :: (cells ++ [[]]) ∧ cells.length = columns ∧
    cells.map unescape = fields.map String.toList

/-- **A row carries its fields exactly if none of them ends in a backslash.** -/
theorem isRow_row_iff {fields : List String} :
    IsRow fields.length (row fields).toList fields ↔ ∀ field ∈ fields, ¬Trails field.toList := by
  have hcut : cutAtBars false (row fields).toList =
      [] :: cutAtBars false (cellsText fields) := by
    rw [toList_row]
    simp [cutAtBars]
  rw [IsRow, hcut]
  constructor
  · rintro ⟨cells, hcells, hlength, -⟩
    have hcount := length_cutAtBars_cellsText fields
    rw [(List.cons.inj hcells).2, List.length_append, hlength, List.length_singleton] at hcount
    have hzero : fields.countP (fun field => Trails field.toList) = 0 := by omega
    simpa using List.countP_eq_zero.1 hzero
  · intro h
    refine ⟨fields.map fun field => escaped field.toList, ?_, List.length_map .., ?_⟩
    · rw [cutAtBars_cellsText h]
    · simp [unescape_escaped]

lemma notMem_row_iff {fields : List String} :
    '\n' ∉ (row fields).toList ↔ ∀ field ∈ fields, '\n' ∉ field.toList := by
  have hfeed : '\n' ≠ '\\' := by decide
  simp [toList_row, cellsText, mem_escaped hfeed]

/-- A text that does not break the row it is a cell of. -/
structure FitsCell (field : String) : Prop where
  oneLine : '\n' ∉ field.toList
  ended : ¬Trails field.toList

instance (field : String) : Decidable (FitsCell field) :=
  decidable_of_iff ('\n' ∉ field.toList ∧ ¬Trails field.toList)
    ⟨fun h => ⟨h.1, h.2⟩, fun h => ⟨h.oneLine, h.ended⟩⟩

/-- **Fields that fit their cells are those that one line carries.** -/
theorem fitsCell_iff {fields : List String} : (∀ field ∈ fields, FitsCell field) ↔
    '\n' ∉ (row fields).toList ∧ IsRow fields.length (row fields).toList fields := by
  rw [notMem_row_iff, isRow_row_iff]
  exact ⟨fun h => ⟨fun field hfield => (h field hfield).oneLine,
    fun field hfield => (h field hfield).ended⟩,
    fun h field hfield => ⟨h.1 field hfield, h.2 field hfield⟩⟩

/-! ## Tables -/

/-- What aligns a column to the left. -/
def leftMark : String := " :--- "

lemma alignment_eq_row (columns : Nat) :
    alignment columns = row (List.replicate columns leftMark) := by
  have hmark : escapeCell leftMark ++ "|" = " :--- |" := by decide
  rw [alignment, row, List.map_replicate, hmark]

/-- A document keeps the shape of its table: after the introduction there are the header, the
alignment row and one line per row, in order, and nothing else. -/
def KeepsShape (document introduction : String) (header : List String)
    (rows : List (List String)) : Prop :=
  ∃ first second body,
    linesOf document = linesOf introduction ++ (first :: second :: body) ++ [[]] ∧
      IsRow header.length first header ∧
      IsRow header.length second (List.replicate header.length leftMark) ∧
      List.Forall₂ (IsRow header.length) body rows

lemma linesOf_document (title : String) (totals header : List String) (rows : List (List String)) :
    linesOf (document title totals (table header rows)) =
      linesOf (document title totals "") ++ (tableLines header rows).flatMap linesOf ++ [[]] := by
  have hdocument : (document title totals (table header rows)).toList =
      (document title totals "").toList ++ '\n' ::
        (String.join ((tableLines header rows).map fun line => line ++ "\n")).toList := by
    simp [document, table]
  rw [linesOf, hdocument, splitOn_append_separator, List.append_assoc, ← linesOf_join]
  rfl

section Shape

variable {title : String} {totals header : List String} {rows : List (List String)}
  (hrows : ∀ fields ∈ rows, fields.length = header.length)

include hrows

/-- Fields that fit their cells leave the table in shape. -/
lemma keepsShape_of_fitsCell (hheader : ∀ column ∈ header, FitsCell column)
    (h : ∀ fields ∈ rows, ∀ field ∈ fields, FitsCell field) :
    KeepsShape (document title totals (table header rows)) (document title totals "") header
      rows := by
  have hfirst := fitsCell_iff.1 hheader
  have hsecond := fitsCell_iff.1 fun field hfield =>
    List.eq_of_mem_replicate (n := header.length) hfield ▸ (by decide : FitsCell leftMark)
  rw [← alignment_eq_row, List.length_replicate] at hsecond
  have hbody : ∀ fields ∈ rows, '\n' ∉ (row fields).toList ∧
      IsRow header.length (row fields).toList fields :=
    fun fields hfields => hrows fields hfields ▸ fitsCell_iff.1 (h fields hfields)
  have hfeed : ∀ line ∈ tableLines header rows, '\n' ∉ line.toList := by
    simp only [tableLines, List.forall_mem_cons, List.forall_mem_map]
    exact ⟨hfirst.1, hsecond.1, fun fields hfields => (hbody fields hfields).1⟩
  refine ⟨_, _, (rows.map row).map String.toList, ?_, hfirst.2, hsecond.2, ?_⟩
  · rw [linesOf_document, flatMap_linesOf hfeed]
    rfl
  · rw [List.map_map, List.forall₂_map_left_iff, List.forall₂_same]
    exact fun fields hfields => (hbody fields hfields).2

/-- In a table that is in shape all fields fit their cells: there is one line per row only if no
row is split. -/
lemma fitsCell_of_keepsShape
    (h : KeepsShape (document title totals (table header rows)) (document title totals "") header
      rows) : ∀ fields ∈ rows, ∀ field ∈ fields, FitsCell field := by
  obtain ⟨first, second, body, hlines, -, -, hbody⟩ := h
  rw [linesOf_document, List.append_cancel_right_eq, List.append_cancel_left_eq] at hlines
  have hlength : ((tableLines header rows).flatMap linesOf).length ≤
      (tableLines header rows).length := by
    rw [hlines, length_tableLines, List.length_cons, List.length_cons, hbody.length_eq]
  have hfeed := notMem_of_length_le hlength
  rw [flatMap_linesOf hfeed] at hlines
  obtain rfl : (rows.map row).map String.toList = body :=
    (List.cons.inj (List.cons.inj hlines).2).2
  rw [List.map_map, List.forall₂_map_left_iff, List.forall₂_same] at hbody
  intro fields hfields
  have hline : row fields ∈ tableLines header rows := by
    simp only [tableLines, List.mem_cons, List.mem_map]
    exact .inr (.inr ⟨fields, hfields, rfl⟩)
  exact fitsCell_iff.2 ⟨hfeed _ hline, hrows fields hfields ▸ hbody fields hfields⟩

/-- **A table keeps its shape exactly if no cell breaks its row.** -/
theorem keepsShape_table_iff (hheader : ∀ column ∈ header, FitsCell column) :
    KeepsShape (document title totals (table header rows)) (document title totals "") header rows ↔
      ∀ fields ∈ rows, ∀ field ∈ fields, FitsCell field :=
  ⟨fitsCell_of_keepsShape hrows, keepsShape_of_fitsCell hrows hheader⟩

end Shape

/-! ## Cells of summaries -/

lemma fitsCell_toString (n : Int) : FitsCell (toString n) := by
  have hdigit {m : Nat} {c : Char} (hc : c ∈ Nat.toDigits 10 m) : c ≠ '\n' ∧ c ≠ '\\' :=
    have h := Json.isDigit_toDigits hc
    ⟨Json.isDigit_ne h _ (by decide), Json.isDigit_ne h _ (by decide)⟩
  have hall : ∀ c ∈ (toString n).toList, c ≠ '\n' ∧ c ≠ '\\' := by
    cases n with
    | ofNat m => rw [Json.toString_ofNat]; exact fun c => hdigit
    | negSucc m =>
      rw [Json.toString_negSucc]
      exact List.forall_mem_cons.2 ⟨by decide, fun c => hdigit⟩
  exact ⟨fun h => (hall _ h).1 rfl, fun h => (hall _ (List.mem_of_getLast? h)).2 rfl⟩

lemma fitsCell_oneLine {text : String} : FitsCell (oneLine text) ↔ ¬Trails text.toList := by
  have hfeed : '\n' ∉ (oneLine text).toList := by
    simp only [oneLine, String.toList_ofList, List.mem_map, not_exists, not_and]
    intro c _
    split <;> simp_all
  have hlast : Trails (oneLine text).toList ↔ Trails text.toList := by
    simp only [Trails, oneLine, String.toList_ofList, List.getLast?_map, Option.map_eq_some_iff]
    constructor
    · rintro ⟨c, hc, heq⟩
      split at heq
      · cases heq
      · exact heq ▸ hc
    · intro h
      exact ⟨'\\', h, by decide⟩
  exact ⟨fun h => hlast.not.1 h.ended, fun h => ⟨hfeed, hlast.not.2 h⟩⟩

lemma fitsCell_artifactStatus (status : ArtifactStatus) : FitsCell status.name := by
  cases status <;> decide

lemma fitsCell_reportState (state : ReportState) : FitsCell state.name := by
  cases state <;> decide

lemma not_trails_link (text target : String) : ¬Trails (link text target).toList := by
  rw [link, String.toList_append, Trails, List.getLast?_append]
  simp

lemma fitsCell_reportLink {place : Place} {outcome : ReportOutcome} :
    FitsCell (ReportSummary.reportLink place outcome) ↔
      '\n' ∉ (ReportSummary.reportLink place outcome).toList := by
  refine ⟨fun h => h.oneLine, fun h => ⟨h, ?_⟩⟩
  unfold ReportSummary.reportLink
  split
  · split
    · decide
    · exact not_trails_link _ _
  · decide

end Markdown

/-! ## Tables of summaries -/

open WasmCoverage.Markdown

/-- What stands before the table of modules. -/
def FinalizeSummary.introduction (summary : FinalizeSummary) (now : Moment) : String :=
  document "Build Artifacts"
    ["Generated: " ++ now.standard,
     "Build root: " ++ summary.buildRoot.lossy,
     "Processed: " ++ outOf summary.processed.length summary.outcomes.length] ""

/-- What stands before the table of binaries. -/
def ReportSummary.introduction (summary : ReportSummary) (now : Moment) : String :=
  document "Coverage Reports"
    ["Generated: " ++ now.standard,
     "Reported: " ++ outOf summary.reported.length summary.reports.length,
     "Skipped (no object file): " ++ toString summary.skipped.length] ""

/-- The texts of the outcome fit their cells. -/
structure ArtifactOutcome.FitsRow (place : Place) (outcome : ArtifactOutcome) : Prop where
  name : FitsCell outcome.name.lossy
  object : FitsCell (place.wayTo? outcome.objectPath)
  message : ¬Trails outcome.message.lossy.toList

/-- The texts of the outcome fit their cells. -/
structure ReportOutcome.FitsRow (place : Place) (outcome : ReportOutcome) : Prop where
  name : FitsCell outcome.name.lossy
  link : '\n' ∉ (ReportSummary.reportLink place outcome).toList
  message : ¬Trails outcome.message.lossy.toList

instance (place : Place) (outcome : ArtifactOutcome) : Decidable (outcome.FitsRow place) :=
  decidable_of_iff (FitsCell outcome.name.lossy ∧ FitsCell (place.wayTo? outcome.objectPath) ∧
      ¬Trails outcome.message.lossy.toList)
    ⟨fun h => ⟨h.1, h.2.1, h.2.2⟩, fun h => ⟨h.name, h.object, h.message⟩⟩

instance (place : Place) (outcome : ReportOutcome) : Decidable (outcome.FitsRow place) :=
  decidable_of_iff (FitsCell outcome.name.lossy ∧
      '\n' ∉ (ReportSummary.reportLink place outcome).toList ∧
      ¬Trails outcome.message.lossy.toList)
    ⟨fun h => ⟨h.1, h.2.1, h.2.2⟩, fun h => ⟨h.name, h.link, h.message⟩⟩

lemma FinalizeSummary.fitsCell_cells_iff {place : Place} {outcome : ArtifactOutcome} :
    (∀ field ∈ cells place outcome, FitsCell field) ↔ outcome.FitsRow place := by
  simp only [cells, List.forall_mem_cons, List.not_mem_nil, false_imp_iff, implies_true, and_true,
    fitsCell_oneLine, fitsCell_artifactStatus, fitsCell_toString, true_and]
  exact ⟨fun ⟨hname, hobject, hmessage⟩ => ⟨hname, hobject, hmessage⟩,
    fun h => ⟨h.name, h.object, h.message⟩⟩

lemma ReportSummary.fitsCell_cells_iff {summary : ReportSummary} {place : Place}
    {outcome : ReportOutcome} :
    (∀ field ∈ summary.cells place outcome, FitsCell field) ↔ outcome.FitsRow place := by
  simp only [cells, List.forall_mem_cons, List.not_mem_nil, false_imp_iff, implies_true, and_true,
    fitsCell_oneLine, fitsCell_reportState, fitsCell_toString, fitsCell_reportLink, true_and]
  exact ⟨fun ⟨hname, hlink, hmessage⟩ => ⟨hname, hlink, hmessage⟩,
    fun h => ⟨h.name, h.link, h.message⟩⟩

/-- **The table of a finalization keeps its shape exactly if no outcome breaks its row.** -/
theorem FinalizeSummary.keepsShape_iff {summary : FinalizeSummary} (hsome : summary.outcomes ≠ [])
    (place : Place) (now : Moment) :
    KeepsShape (summary.markdown place now) (summary.introduction now) columns
        (summary.outcomes.map (cells place)) ↔
      ∀ outcome ∈ summary.outcomes, outcome.FitsRow place := by
  have hcolumns : ∀ column ∈ columns, FitsCell column := by decide
  have hlength : ∀ fields ∈ summary.outcomes.map (cells place), fields.length = columns.length := by
    simp only [List.forall_mem_map, cells, columns, List.length_cons, List.length_nil,
      implies_true]
  rw [markdown, List.isEmpty_eq_false_iff.2 hsome, if_neg (by decide), introduction,
    keepsShape_table_iff hlength hcolumns]
  simp only [List.forall_mem_map, fitsCell_cells_iff]

/-- **The table of a report run keeps its shape exactly if no outcome breaks its row.** -/
theorem ReportSummary.keepsShape_iff {summary : ReportSummary} (hsome : summary.reports ≠ [])
    (place : Place) (now : Moment) :
    KeepsShape (summary.markdown place now) (summary.introduction now) columns
        (summary.reports.map (summary.cells place)) ↔
      ∀ outcome ∈ summary.reports, outcome.FitsRow place := by
  have hcolumns : ∀ column ∈ columns, FitsCell column := by decide
  have hlength : ∀ fields ∈ summary.reports.map (summary.cells place),
      fields.length = columns.length := by
    simp only [List.forall_mem_map, cells, columns, List.length_cons, List.length_nil,
      implies_true]
  rw [markdown, List.isEmpty_eq_false_iff.2 hsome, if_neg (by decide), introduction,
    keepsShape_table_iff hlength hcolumns]
  simp only [List.forall_mem_map, fitsCell_cells_iff]

/-- **Tables keep their shape exactly if no outcome breaks its row**, those of finalizations and
those of report runs. -/
theorem tables_keep_shape (place : Place) (now : Moment) :
    (∀ summary : FinalizeSummary, summary.outcomes ≠ [] →
      (KeepsShape (summary.markdown place now) (summary.introduction now) FinalizeSummary.columns
          (summary.outcomes.map (FinalizeSummary.cells place)) ↔
        ∀ outcome ∈ summary.outcomes, outcome.FitsRow place)) ∧
    (∀ summary : ReportSummary, summary.reports ≠ [] →
      (KeepsShape (summary.markdown place now) (summary.introduction now) ReportSummary.columns
          (summary.reports.map (summary.cells place)) ↔
        ∀ outcome ∈ summary.reports, outcome.FitsRow place)) :=
  ⟨fun _ hsome => FinalizeSummary.keepsShape_iff hsome place now,
    fun _ hsome => ReportSummary.keepsShape_iff hsome place now⟩

/-- Where the documents of the examples stand. -/
def samplePlace : Place :=
  ⟨.ofText "/t", .ofText "/t/staging"⟩

/-- When the documents of the examples were written. -/
def sampleMoment : Moment :=
  { year := 2024, month := 5, day := 1 }

/-- A summary with bars and line feeds in its texts. -/
def barredSummary : FinalizeSummary :=
  { buildRoot := "/t"
    stagingDirectory := "/t/staging"
    outcomes :=
      [{ name := "a|b", modulePath := "/t/a.wasm", status := .processed,
         objectPath := some (LooseText.ofString "/t/staging/a|b.o"), message := "one\n\\|two" }] }

/-- A summary of a report whose name ends in a bar. -/
def barredReports : ReportSummary :=
  { reports := [{ name := "a|", state := .reported,
                  reportDirectory := some (LooseText.ofString "/t/reports/a"), message := "\n" }] }

/-- Bars, line feeds in messages and backslashes inside texts do not break a table. -/
theorem tables_keep_shape_barred :
    (barredSummary.outcomes ≠ [] ∧
      KeepsShape (barredSummary.markdown samplePlace sampleMoment)
        (barredSummary.introduction sampleMoment) FinalizeSummary.columns
        (barredSummary.outcomes.map (FinalizeSummary.cells samplePlace))) ∧
    (barredReports.reports ≠ [] ∧
      KeepsShape (barredReports.markdown samplePlace sampleMoment)
        (barredReports.introduction sampleMoment) ReportSummary.columns
        (barredReports.reports.map (barredReports.cells samplePlace))) := by
  obtain ⟨finalize, report⟩ := tables_keep_shape samplePlace sampleMoment
  have hrows : ∀ outcome ∈ barredSummary.outcomes, outcome.FitsRow samplePlace := by decide +kernel
  have hreports : ∀ outcome ∈ barredReports.reports, outcome.FitsRow samplePlace := by
    decide +kernel
  have hsome : barredSummary.outcomes ≠ [] := by decide
  have hsomeReports : barredReports.reports ≠ [] := by decide
  exact ⟨⟨hsome, (finalize barredSummary hsome).2 hrows⟩,
    hsomeReports, (report barredReports hsomeReports).2 hreports⟩

/-- A summary with a line feed in the name of a module. -/
def splitSummary : FinalizeSummary :=
  { buildRoot := "/t"
    stagingDirectory := "/t/staging"
    outcomes := [{ name := "a\nb", modulePath := "/t/a.wasm", status := .processed }] }

/-- **A line feed in a name breaks the table**: one outcome takes two lines, and neither has five
cells. -/
theorem not_keepsShape_of_split_name :
    ¬KeepsShape (splitSummary.markdown samplePlace sampleMoment)
        (splitSummary.introduction sampleMoment) FinalizeSummary.columns
        (splitSummary.outcomes.map (FinalizeSummary.cells samplePlace)) ∧
      linesOf (splitSummary.markdown samplePlace sampleMoment) =
        linesOf (splitSummary.introduction sampleMoment) ++
          ["|module|status|functions|object|message|", "| :--- | :--- | :--- | :--- | :--- |",
           "|a", "b|processed|0|||", ""].map String.toList := by
  constructor
  · have hbroken : ¬∀ outcome ∈ splitSummary.outcomes, outcome.FitsRow samplePlace := by
      decide +kernel
    have hsome : splitSummary.outcomes ≠ [] := by decide
    exact (FinalizeSummary.keepsShape_iff hsome samplePlace sampleMoment).not.2 hbroken
  · have hlines : linesOf (splitSummary.markdown samplePlace sampleMoment) =
        linesOf (splitSummary.introduction sampleMoment) ++
          (tableLines FinalizeSummary.columns
            (splitSummary.outcomes.map (FinalizeSummary.cells samplePlace))).flatMap linesOf ++
          [[]] :=
      linesOf_document _ _ _ _
    rw [hlines, List.append_assoc]
    exact congrArg _ (by decide +kernel)

end WasmCoverage
