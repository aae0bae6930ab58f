import WasmCoverage.Proofs.Course
import WasmCoverage.Proofs.Pipeline.Quiet

/-!
# The steps of a report run

A report run merges all samples, takes one step for every outcome of that, and then concludes
(`report_eq`).  A step looks for the object of a binary (`reportMerged_spec`) and has the tool
render the report of one that has an object (`attemptReport_spec`); what goes wrong there is written
into the outcome.

Looking for an object reads the disk and nothing else (`onlyDisk_findObject`), so what is found does
not depend on what the journal says or which tools were called.
-/

namespace WasmCoverage.Pipeline

open WasmCoverage.Disk

variable {pipeline : Pipeline} {tools : Toolbox} {extra : List String} {merged : MergeOutcome}
  {object directory : Path} {w w' : World} {r : Except Fault ReportOutcome}

/-! ## Taking a run apart -/

/-- Write the record and the document of a run, and judge it as a whole. -/
def conclude (pipeline : Pipeline) (summary : ReportSummary) : Run ReportSummary := do
  pipeline.writeReport summary
  if let some count := allFailed? (fun o : ReportOutcome => o.state ≠ .objectMissing)
      (fun o => o.state = .failed) summary.reports then
    throw (.phase (.reports count))
  if summary.merges.isEmpty then
    let samples ← pipeline.workspace.store .rawProfiles
    note .warning ("No raw profile samples found in " ++ samples.text)
  return summary

/-- After the record was written, nothing is done but to ask for the raw store. -/
lemma respects_concluding {R : World → World → Prop} [Std.Refl R] [IsTrans World R]
    (hstore : Respects R (pipeline.workspace.store .rawProfiles))
    (hnote : ∀ level message, Respects R (note level message)) (summary : ReportSummary) :
    Respects R (do
      if let some count := allFailed? (fun o : ReportOutcome => o.state ≠ .objectMissing)
          (fun o => o.state = .failed) summary.reports then
        throw (.phase (.reports count))
      if summary.merges.isEmpty then
        let samples ← pipeline.workspace.store .rawProfiles
        note .warning ("No raw profile samples found in " ++ samples.text)
      return summary) := by
  have hlast : Respects R (do
      let samples ← pipeline.workspace.store .rawProfiles
      note .warning ("No raw profile samples found in " ++ samples.text)
      return summary) :=
    hstore.bind fun _ => (hnote _ _).bind fun _ => Respects.pure _
  generalize summary.merges.isEmpty = none
  generalize allFailed? _ _ summary.reports = verdict
  cases verdict with
  | some count =>
    refine (Respects.throw _).bind fun _ => ?_
    cases none with
    | true => exact hlast
    | false => exact Respects.pure _
  | none =>
    cases none with
    | true => exact hlast
    | false => exact Respects.pure _

/-- A run that is concluded well is concluded with its summary. -/
lemma eq_of_concluding {summary concluded : ReportSummary} {w w' : World}
    (h : Ends (pipeline.conclude summary) w (.ok concluded) w') : concluded = summary := by
  obtain ⟨⟨⟩, t, -, hrest⟩ := ends_bind_ok.1 h
  revert hrest
  generalize summary.merges.isEmpty = none
  generalize allFailed? _ _ summary.reports = verdict
  intro hrest
  have heq {u : World} (hlast : Ends (pure summary : Run ReportSummary) u (.ok concluded) w') :
      concluded = summary := Except.ok.inj (ends_pure.1 hlast).1
  cases verdict with
  | some count => cases (ends_throw_bind.1 hrest).1
  | none =>
    cases none with
    | true =>
      obtain ⟨samples, u, -, hnoted⟩ := ends_bind_ok.1 hrest
      obtain ⟨⟨⟩, v, -, hlast⟩ := ends_bind_ok.1 hnoted
      exact heq hlast
    | false => exact heq hrest

/-- **A report run is a batch over the outcomes of a merge**, and a conclusion. -/
theorem report_eq (extra : List String) : pipeline.report tools extra =
    batch (pipeline.mergeAll tools []) id
      (fun _ => pipeline.reportOne tools (pipeline.settings.reportArguments ++ extra)) >>=
      fun done => pipeline.conclude ⟨done.1, done.2⟩ := by
  simp only [batch, bind_assoc, pure_bind, id_eq]
  rfl

/-- A merge of all samples is a batch over the groups. -/
lemma mergeAll_eq (extra : List String) : pipeline.mergeAll tools extra = (do
    let done ← batch pipeline.workspace.groups id
      (fun _ => pipeline.mergeGroup tools (pipeline.settings.mergeArguments ++ extra))
    return done.2) := by
  simp [mergeAll, batch]

/-- The outcome of a binary whose report was rendered. -/
def reportedOutcome (merged : MergeOutcome) (object directory : Path) : ReportOutcome :=
  { name := merged.name, state := .reported, profilePath := some merged.profilePath,
    objectPath := some object.text, reportDirectory := some directory.text }

/-- The outcome of a binary whose report failed. -/
def failedReport (merged : MergeOutcome) (object directory : Path) (fault : Fault) :
    ReportOutcome :=
  { reportedOutcome merged object directory with
    state := .failed, reportDirectory := none, message := fault.message }

/-- The outcome of a binary without an object. -/
def missingReport (merged : MergeOutcome) : ReportOutcome :=
  { name := merged.name, state := .objectMissing, profilePath := some merged.profilePath,
    message := "object file not found" }

/-- Render the report of a binary; what goes wrong is recorded. -/
def attemptReport (pipeline : Pipeline) (tools : Toolbox) (extra : List String)
    (merged : MergeOutcome) (object directory : Path) : Run ReportOutcome :=
  tryCatch (do
      pipeline.render tools (.ofText merged.profilePath.lossy) object directory extra
      note .info ("Coverage report has been saved to " ++ directory.text)
      return reportedOutcome merged object directory)
    fun fault => if fault.isItemFault then do
        note .warning ("Failed to generate coverage report for " ++ merged.name.lossy ++ ": " ++
          fault.message)
        return failedReport merged object directory fault
      else throw fault

lemma reportObject_eq (object : Path) : pipeline.reportObject tools extra merged object = (do
    let directory ← pipeline.workspace.reportDirectory merged.name.lossy
    pipeline.attemptReport tools extra merged object directory) := by
  unfold reportObject
  refine bind_congr fun directory => tryCatch_early ?_ fun fault => ?_
  · simp only [bind_assoc]
    rfl
  · split
    · simp only [bind_assoc]
      rfl
    · simp

/-! ## The place of a document -/

/-- Where a document stands is read off the world. -/
lemma ends_placeIn_bind {α : Type} {f : Markdown.Place → Run α} {r : Except Fault α} :
    Ends (placeIn directory >>= f) w r w' ↔
      Ends (f ⟨pathOf w.disk.here, directory⟩) w r w' := by
  simp only [placeIn, currentDirectory, bind_assoc, pure_bind, ends_get_bind]

/-! ## Looking for an object -/

/-- Looking through a directory changes nothing. -/
lemma respects_objectIn (name : String) (directory : Path) :
    Respects Eq (objectIn name directory) := by
  unfold objectIn
  refine respects_isFile.bind fun found => ?_
  split
  · exact Respects.pure _
  · exact respects_entriesOf.bind fun entries => respects_firstFile _ _

/-- **Looking for an object** is a run on the disk alone, and so calls no tool. -/
theorem onlyDisk_findObject (name : String) : OnlyDisk (pipeline.findObject name) := by
  unfold findObject
  refine (OnlyDisk.store _).bind fun staging => (OnlyDisk.store _).bind fun objects => ?_
  refine (OnlyDisk.onDisk _).bind fun found => ?_
  split
  · exact OnlyDisk.pure _
  · exact OnlyDisk.onDisk _

/-- **An object is looked for in two stores**, in the second one if there is none in the first. -/
theorem findObject_spec {name : String} {found : Option Path}
    (h : Ends (pipeline.findObject name) w (.ok found) w') : ∃ staging objects t,
      Ends (pipeline.workspace.store .staging) w (.ok staging) t ∧
      Ends (pipeline.workspace.store .objects) t (.ok objects) w' ∧
      ((found ≠ none ∧ Ends (objectIn name staging) w'.disk (.ok found) w'.disk) ∨
        Ends (objectIn name staging) w'.disk (.ok none) w'.disk ∧
          Ends (objectIn name objects) w'.disk (.ok found) w'.disk) := by
  obtain ⟨staging, t, hstaging, hrest⟩ := ends_bind_ok.1 h
  obtain ⟨objects, t', hobjects, hrest⟩ := ends_bind_ok.1 hrest
  obtain ⟨first, t'', hfirst, hrest⟩ := ends_bind_ok.1 hrest
  obtain ⟨disk, haction, rfl⟩ := ends_onDisk_ok.1 hfirst
  obtain rfl := respects_objectIn _ _ _ _ _ haction
  cases first with
  | some object =>
      obtain ⟨hfound, rfl⟩ := ends_pure.1 hrest
      obtain rfl := Except.ok.inj hfound
      exact ⟨staging, objects, t, hstaging, hobjects, Or.inl ⟨by simp, haction⟩⟩
  | none =>
      obtain ⟨disk', haction', rfl⟩ := ends_onDisk_ok.1 hrest
      obtain rfl := respects_objectIn _ _ _ _ _ haction'
      exact ⟨staging, objects, t, hstaging, hobjects, Or.inr ⟨haction, haction'⟩⟩

/-- After an object was looked for, the stores that it is looked for in are there. -/
lemma stores_of_findObject {name : String} {found : Option Path}
    (h : Ends (pipeline.findObject name) w (.ok found) w') (store : Store)
    (hstore : store = .staging ∨ store = .objects) :
    ∃ path, Ends (pipeline.workspace.store store) w' (.ok path) w' := by
  obtain ⟨staging, objects, t, hstaging, hobjects, -⟩ := findObject_spec h
  rcases hstore with rfl | rfl
  · exact ⟨staging, Workspace.store_again hstaging
      (Workspace.respects_store _ _ _ _ hobjects).keeps⟩
  · exact ⟨objects, Workspace.store_again hobjects (Keeps.refl _)⟩

/-! ## A step -/

/-- **A report is rendered, or its failure is recorded**; nothing but the tool stops a step, and
the disk where it is no refusal. -/
theorem attemptReport_spec
    (h : Ends (pipeline.attemptReport tools extra merged object directory) w r w') :
    (∃ t, Ends (pipeline.render tools (.ofText merged.profilePath.lossy) object directory extra) w
        (.ok ()) t ∧ r = .ok (reportedOutcome merged object directory) ∧ w'.disk = t.disk ∧
          w'.calls = t.calls) ∨
      ∃ fault t, Ends (pipeline.render tools (.ofText merged.profilePath.lossy) object directory
          extra) w (.error fault) t ∧ w'.disk = t.disk ∧ w'.calls = t.calls ∧
        ((fault.isItemFault = true ∧ r = .ok (failedReport merged object directory fault)) ∨
          fault.isItemFault = false ∧ r = .error fault) := by
  rcases ends_tryCatch.1 h with ⟨value, hrender, rfl⟩ | ⟨fault, t, hrender, hhandled⟩
  · obtain ⟨⟨⟩, t, hrun, hrest⟩ := ends_bind_ok.1 hrender
    obtain ⟨heq, rfl⟩ := ends_pure.1 (ends_note_bind.1 hrest)
    exact Or.inl ⟨t, hrun, by rw [heq], rfl, rfl⟩
  · have hrun : Ends (pipeline.render tools (.ofText merged.profilePath.lossy) object directory
        extra) w (.error fault) t := by
      rcases ends_bind.1 hrender with ⟨⟨⟩, t', -, hrest⟩ | ⟨fault', hrun, heq⟩
      · cases (ends_pure.1 (ends_note_bind.1 hrest)).1
      · obtain rfl := Except.error.inj heq
        exact hrun
    refine Or.inr ⟨fault, t, hrun, ?_⟩
    split at hhandled
    · next hitem =>
        obtain ⟨rfl, rfl⟩ := ends_pure.1 (ends_note_bind.1 hhandled)
        exact ⟨rfl, rfl, Or.inl ⟨hitem, rfl⟩⟩
    · next hitem =>
        obtain ⟨rfl, rfl⟩ := ends_throw.1 hhandled
        exact ⟨rfl, rfl, Or.inr ⟨by simpa using hitem, rfl⟩⟩

/-- **A step for a merged binary** looks for its object first. -/
theorem reportMerged_spec (h : Ends (pipeline.reportMerged tools extra merged) w r w') :
    (∃ fault, Ends (pipeline.findObject merged.name.lossy) w (.error fault)
        { w with disk := w'.disk } ∧ w'.calls = w.calls ∧ r = .error fault) ∨
      (Ends (pipeline.findObject merged.name.lossy) w (.ok none) { w with disk := w'.disk } ∧
        w'.calls = w.calls ∧ r = .ok (missingReport merged)) ∨
      ∃ object t, Ends (pipeline.findObject merged.name.lossy) w (.ok (some object))
          { w with disk := t.disk } ∧ t.calls = w.calls ∧
        Ends (pipeline.reportObject tools extra merged object) t r w' := by
  have honly : OnlyDisk (pipeline.findObject merged.name.lossy) := onlyDisk_findObject _
  rcases ends_bind.1 (ends_note_bind.1 h) with ⟨found, t, hfound, hrest⟩ | ⟨fault, hfound, rfl⟩
  · have hcalls := honly.quiet _ _ _ hfound
    rw [Quiet, calls_noted] at hcalls
    cases found with
    | some object =>
        exact Or.inr (Or.inr ⟨object, t, honly _ _ _ hfound w rfl, hcalls, hrest⟩)
    | none =>
        obtain ⟨staging, hstaging⟩ := stores_of_findObject hfound .staging (Or.inl rfl)
        obtain ⟨objects, hobjects⟩ := stores_of_findObject hfound .objects (Or.inr rfl)
        have hlast := hstaging.bind (f := fun staging => do
          let objects ← pipeline.workspace.store .objects
          note .warning ("Object file not found for " ++ merged.name.lossy ++
            "; object files should be placed in " ++ staging.text ++ " or " ++ objects.text)
          return missingReport merged)
          (hobjects.bind (ends_note_bind.2 (ends_pure.2 ⟨rfl, rfl⟩)))
        obtain ⟨rfl, rfl⟩ := hrest.unique hlast
        exact Or.inr (Or.inl ⟨honly _ _ _ hfound w rfl, hcalls, rfl⟩)
  · have hcalls := honly.quiet _ _ _ hfound
    rw [Quiet, calls_noted] at hcalls
    exact Or.inl ⟨fault, honly _ _ _ hfound w rfl, hcalls, rfl⟩

end WasmCoverage.Pipeline
