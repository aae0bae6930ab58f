import WasmCoverage.Moment
import WasmCoverage.Path.Relative
import WasmCoverage.Summary.Basic

/-!
# Summaries as Markdown

For readers a summary is a heading, a list of totals and a table with one row per outcome.  Cells
hold any text: a `|` in a cell is written `\|`, and a line feed in a message becomes a blank; a
carriage return stays.  Paths are shown relative to the directory of the document.

A document consists of characters.  A summary that was read from a file may name halves of surrogate
pairs; then nothing can be written (`markdown?`).

Main statements: `length_tableLines`, a table has a header, an alignment row and one row per
outcome, and `markdown?_eq_some_iff`, what is written for a summary.
-/

namespace WasmCoverage.Markdown

open WasmCoverage.Text

/-! ## Parts of a document -/

/-- A heading of the first level. -/
def heading (title : String) : String :=
  "\n# " ++ title ++ "\n"

/-- A list. -/
def bullets (items : List String) : String :=
  "\n" ++ String.join (items.map fun item => "- " ++ item ++ "\n")

/-- A paragraph. -/
def paragraph (text : String) : String :=
  "\n\n" ++ text

/-- A link. -/
def link (text target : String) : String :=
  "[" ++ text ++ "](" ++ target ++ ")"

/-- The text of a cell. -/
def escapeCell (cell : String) : String :=
  String.ofList (cell.toList.flatMap fun c => if c = '|' then ['\\', '|'] else [c])

/-- A row of a table. -/
def row (cells : List String) : String :=
  "|" ++ String.join (cells.map fun cell => escapeCell cell ++ "|")

/-- The row that aligns columns to the left. -/
def alignment (columns : Nat) : String :=
  "|" ++ String.join (List.replicate columns " :--- |")

/-- The lines of a table. -/
def tableLines (header : List String) (rows : List (List String)) : List String :=
  row header :: alignment header.length :: rows.map row

/-- **A table has a header, an alignment row and one row per outcome.** -/
theorem length_tableLines (header : List String) (rows : List (List String)) :
    (tableLines header rows).length = rows.length + 2 := by
  simp [tableLines]

/-- A table. -/
def table (header : List String) (rows : List (List String)) : String :=
  "\n" ++ String.join ((tableLines header rows).map fun line => line ++ "\n")

/-- A text without line feeds. -/
def oneLine (text : String) : String :=
  String.ofList (text.toList.map fun c => if c = '\n' then ' ' else c)

/-- The document with a title and totals; the first three lines are left for front matter. -/
def document (title : String) (totals : List String) (body : String) : String :=
  "\n\n\n" ++ heading title ++ bullets totals ++ body

/-! ## Places -/

/-- The suffix of documents. -/
def suffix : String := ".md"

/-- Does one text end in another? -/
def endsIn (part text : String) : Bool :=
  part.toList.isSuffixOf text.toList

/-- The file that a document asked for under a name is written to: the name has the suffix.  There
is none for a name that is empty or nothing but the suffix. -/
def fileName? (asked : String) : Option String :=
  let base := if endsIn suffix asked
    then String.ofList (asked.toList.take (asked.length - suffix.length)) else asked
  if base = "" then none else some (if endsIn suffix base then base else base ++ suffix)

/-- Where a document stands: the directory it is in, seen from the current directory. -/
structure Place where
  here : Path
  directory : Path
  deriving DecidableEq, Repr

/-- The way from a document to a path. -/
def Place.wayTo (place : Place) (target : String) : String :=
  if target = "" then "" else (Path.relativeTo place.here place.directory (.ofText target)).text

/-- The way from a document to a path, if there is one. -/
def Place.wayTo? (place : Place) (target : Option LooseText) : String :=
  (target.map fun path => place.wayTo path.lossy).getD ""

/-- The total "so many of so many". -/
def outOf (part whole : Nat) : String :=
  toString part ++ " / " ++ toString whole

end Markdown

/-! ## The two documents -/

namespace FinalizeSummary

/-- The columns of the table of modules. -/
def columns : List String := ["module", "status", "functions", "object", "message"]

/-- The row of a module. -/
def cells (place : Markdown.Place) (outcome : ArtifactOutcome) : List String :=
  [outcome.name.lossy, outcome.status.name, toString outcome.neutralized,
   place.wayTo? outcome.objectPath, Markdown.oneLine outcome.message.lossy]

/-- The summary of a finalization as a document. -/
def markdown (summary : FinalizeSummary) (place : Markdown.Place) (now : Moment) : String :=
  Markdown.document "Build Artifacts"
    ["Generated: " ++ now.standard,
     "Build root: " ++ summary.buildRoot.lossy,
     "Processed: " ++ Markdown.outOf summary.processed.length summary.outcomes.length]
    (if summary.outcomes.isEmpty then Markdown.paragraph "No instrumented modules were found."
     else Markdown.table columns (summary.outcomes.map (cells place)))

/-- The texts that the document shows. -/
def shown (summary : FinalizeSummary) : List LooseText :=
  summary.buildRoot :: summary.outcomes.flatMap fun outcome =>
    outcome.name :: outcome.message :: outcome.objectPath.toList

/-- What is written as the document, if that is text. -/
def markdown? (summary : FinalizeSummary) (place : Markdown.Place) (now : Moment) :
    Option String :=
  if summary.shown.all (·.isProper) then some (summary.markdown place now) else none

/-- **Where there are characters only, the document is written.** -/
theorem markdown?_eq_some_iff {summary : FinalizeSummary} {place : Markdown.Place} {now : Moment}
    {text : String} : summary.markdown? place now = some text ↔
      (∀ s ∈ summary.shown, s.isProper = true) ∧ summary.markdown place now = text := by
  simp [markdown?]

end FinalizeSummary

namespace ReportSummary

/-- The columns of the table of binaries. -/
def columns : List String := ["binary", "state", "samples", "report", "message"]

/-- The number of samples that were merged under a name; of several merges the last one counts. -/
def samplesOf (summary : ReportSummary) (name : LooseText) : Int :=
  ((summary.merges.reverse.find? fun outcome => outcome.name = name).map
    MergeOutcome.sampleCount).getD 0

/-- The page that a report begins with. -/
def indexName : String := "index.html"

/-- The link to a report, if there is one. -/
def reportLink (place : Markdown.Place) (outcome : ReportOutcome) : String :=
  match outcome.state, outcome.reportDirectory with
  | .reported, some directory =>
    if directory.isEmpty then ""
    else Markdown.link indexName
      (place.wayTo ((Path.ofText directory.lossy).child indexName).text)
  | _, _ => ""

/-- The row of a binary. -/
def cells (summary : ReportSummary) (place : Markdown.Place) (outcome : ReportOutcome) :
    List String :=
  [outcome.name.lossy, outcome.state.name, toString (summary.samplesOf outcome.name),
   reportLink place outcome, Markdown.oneLine outcome.message.lossy]

/-- The summary of a report run as a document. -/
def markdown (summary : ReportSummary) (place : Markdown.Place) (now : Moment) : String :=
  Markdown.document "Coverage Reports"
    ["Generated: " ++ now.standard,
     "Reported: " ++ Markdown.outOf summary.reported.length summary.reports.length,
     "Skipped (no object file): " ++ toString summary.skipped.length]
    (if summary.reports.isEmpty then Markdown.paragraph "No raw profile samples were found."
     else Markdown.table columns (summary.reports.map (summary.cells place)))

/-- The texts that the document shows. -/
def shown (summary : ReportSummary) : List LooseText :=
  summary.reports.flatMap fun outcome =>
    outcome.name :: outcome.message ::
      (if outcome.state = .reported then outcome.reportDirectory.toList else [])

/-- What is written as the document, if that is text. -/
def markdown? (summary : ReportSummary) (place : Markdown.Place) (now : Moment) :
    Option String :=
  if summary.shown.all (·.isProper) then some (summary.markdown place now) else none

/-- **Where there are characters only, the document is written.** -/
theorem markdown?_eq_some_iff {summary : ReportSummary} {place : Markdown.Place} {now : Moment}
    {text : String} : summary.markdown? place now = some text ↔
      (∀ s ∈ summary.shown, s.isProper = true) ∧ summary.markdown place now = text := by
  simp [markdown?]

end ReportSummary

end WasmCoverage
