import WasmCoverage.Proofs.Artifact.Key
import WasmCoverage.Proofs.Pipeline.Steps

/-!
# How phases end

Each phase is a batch, and a judgement on it.  **`phases_end`** says how the three phases end, for
every workspace and whatever the tools do, as long as a call that fails fails with a failure of
the tool.

Where every item was tried there is one outcome for each, in order, and the phase as a whole fails
exactly if some item failed and none went well: a module that has no IR and a binary that has no
object do not count.  An item that fails does not stop the others.  What does is listed in
`FinalizeStops`, `MergeStops` and `ReportStops`: operations on the disk that a step does not guard.
One of them is within reach of a group of samples, by the length of its name alone
(`not_merge_of_long_name`).
-/

namespace WasmCoverage.Pipeline

open WasmCoverage.Disk WasmCoverage.Text WasmCoverage.Workspace

variable {pipeline : Pipeline} {tools : Toolbox} {extra : List String} {staging : Path}
  {w w' : World}

/-! ## Judgements -/

/-- **A judgement** counts the items that were attempted, if some of them failed and none went
well. -/
theorem allFailed?_eq {α : Type} (attempted failed good : α → Prop) [DecidablePred attempted]
    [DecidablePred failed] [DecidablePred good] {items : List α}
    (h : ∀ a ∈ items, attempted a ↔ failed a ∨ good a) (hgood : ∀ a ∈ items, good a → ¬ failed a) :
    allFailed? (fun a => attempted a) (fun a => failed a) items =
      if (∃ a ∈ items, failed a) ∧ ∀ a ∈ items, ¬ good a then
        some (items.countP fun a => attempted a) else none := by
  have hiff : (items.filter (fun a => attempted a) ≠ [] ∧
      (items.filter fun a => attempted a).all (fun a => failed a) = true) ↔
      (∃ a ∈ items, failed a) ∧ ∀ a ∈ items, ¬ good a := by
    simp only [ne_eq, List.filter_eq_nil_iff, not_forall, List.all_eq_true, List.mem_filter,
      and_imp, exists_prop, not_not, decide_eq_true_eq]
    constructor
    · rintro ⟨⟨a, ha, hattempted⟩, hall⟩
      refine ⟨⟨a, ha, hall a ha hattempted⟩, fun b hb hb' => ?_⟩
      exact hgood b hb hb' (hall b hb ((h b hb).2 (Or.inr hb')))
    · rintro ⟨⟨a, ha, hfailed⟩, hnone⟩
      refine ⟨⟨a, ha, (h a ha).2 (Or.inl hfailed)⟩, fun b hb hattempted => ?_⟩
      exact ((h b hb).1 hattempted).resolve_right (hnone b hb)
  unfold allFailed?
  simp only [hiff, List.countP_eq_length_filter]

/-! ## Finalization -/

/-- What a search for modules finds. -/
structure Search where
  staging : Path
  root : Path
  modules : List Module

/-- Find the modules to finalize. -/
def findModules (pipeline : Pipeline) (buildRoot : Option Path) (forbidden : Forbidden) :
    Run Search := do
  let staging ← pipeline.workspace.store .staging
  let root ← searchRoot staging buildRoot
  let modules ← discover root pipeline.settings.build.markerOctets forbidden
  note .info ("Found " ++ toString modules.length ++ " instrumented module(s) under " ++ root.text)
  return ⟨staging, root, modules⟩

/-- A finalization is a batch over the modules, and a judgement. -/
lemma finalize_eq_batch (buildRoot : Option Path) (forbidden : Forbidden) :
    pipeline.finalize tools buildRoot forbidden =
      batch (pipeline.findModules buildRoot forbidden) Search.modules
        (fun found => pipeline.finalizeModule tools found.staging) >>= fun done =>
          judge done.1.staging ⟨done.1.root.text, done.1.staging.text, done.2⟩ := by
  simp only [finalize_eq, tryModules, batch, findModules, bind_assoc, pure_bind]

lemma findModules_spec {buildRoot : Option Path} {forbidden : Forbidden} {found : Search}
    (h : Ends (pipeline.findModules buildRoot forbidden) w (.ok found) w') :
    hasNul found.staging = false ∧ ∀ m ∈ found.modules, m.Sound ∧ m.Clean := by
  obtain ⟨store, t, hstore, hrest⟩ := ends_bind_ok.1 h
  obtain ⟨root, t, -, hrest⟩ := ends_bind_ok.1 hrest
  obtain ⟨modules, t, hdiscover, hrest⟩ := ends_bind_ok.1 hrest
  obtain ⟨hfound, -⟩ := ends_pure.1 (ends_note_bind.1 hrest)
  obtain rfl := Except.ok.inj hfound
  exact ⟨(hasDirectory_store hstore).1, fun m hm =>
    ⟨discover_sound hdiscover m hm, discover_clean hdiscover m hm⟩⟩

lemma unjudged_findModules (buildRoot : Option Path) (forbidden : Forbidden) :
    FailsOnly Fault.Unjudged (pipeline.findModules buildRoot forbidden) := by
  have hroot (staging : Path) : FailsOnly Fault.Unjudged (searchRoot staging buildRoot) := by
    cases buildRoot with
    | some path => exact unjudged_onDisk _
    | none => exact FailsOnly.pure _
  refine (unjudged_store _).bind fun staging => (hroot staging).bind fun root => ?_
  refine (unjudged_discover _ _ _).bind fun modules => ?_
  exact FailsOnly.bind (FailsOnly.journal _ _ _) fun _ => FailsOnly.pure _

/-- How the batch of a finalization goes. -/
abbrev FinalizeCourse (pipeline : Pipeline) (buildRoot : Option Path) (forbidden : Forbidden) :
    World → Except Fault (Search × List ArtifactOutcome) → World → Prop :=
  Course (Ends (pipeline.findModules buildRoot forbidden)) Search.modules (fun _ => Finalizes)
    fun found _ => FinalizeStops found.staging

/-- How a finalization ends. -/
inductive FinalizeEnds (pipeline : Pipeline) (buildRoot : Option Path) (forbidden : Forbidden)
    (w : World) : Except Fault FinalizeSummary → World → Prop
  /-- There are no modules to be found, or the batch was stopped. -/
  | interrupted {fault : Fault} {w' : World}
      (course : pipeline.FinalizeCourse buildRoot forbidden w (.error fault) w')
      (unjudged : fault.Unjudged) : FinalizeEnds pipeline buildRoot forbidden w (.error fault) w'
  /-- Every module was tried, and the document about them cannot be written. -/
  | unwritten {found : Search} {outcomes : List ArtifactOutcome} {data : Octets}
      {error : Disk.Error} {t w' : World}
      (course : pipeline.FinalizeCourse buildRoot forbidden w (.ok (found, outcomes)) t)
      (refused : Ends (write (found.staging.child finalizeDocument) data) t.disk (.error error)
        w'.disk) : FinalizeEnds pipeline buildRoot forbidden w (.error (.disk error)) w'
  /-- Every module was tried, and the batch was judged. -/
  | judged {found : Search} {outcomes : List ArtifactOutcome} {t w' : World}
      (course : pipeline.FinalizeCourse buildRoot forbidden w (.ok (found, outcomes)) t) :
      FinalizeEnds pipeline buildRoot forbidden w
        (if (∃ outcome ∈ outcomes, outcome.status = .failed) ∧
            ∀ outcome ∈ outcomes, outcome.status ≠ .processed
          then .error (.phase (.modules (outcomes.countP fun outcome =>
            outcome.status ≠ .irMissing)))
          else .ok ⟨found.root.text, found.staging.text, outcomes⟩) w'

/-- **A finalization is judged by its outcomes** once the document about them is written. -/
lemma judge_ends {summary : FinalizeSummary} {r : Except Fault FinalizeSummary}
    (h : Ends (judge staging summary) w r w') :
    (∃ data error, r = .error (.disk error) ∧
        Ends (write (staging.child finalizeDocument) data) w.disk (.error error) w'.disk) ∨
      r = if (∃ outcome ∈ summary.outcomes, outcome.status = .failed) ∧
            ∀ outcome ∈ summary.outcomes, outcome.status ≠ .processed
          then .error (.phase (.modules (summary.outcomes.countP fun outcome =>
            outcome.status ≠ .irMissing)))
          else .ok summary := by
  have hverdict := allFailed?_eq (fun o : ArtifactOutcome => o.status ≠ .irMissing)
    (fun o => o.status = .failed) (fun o => o.status = .processed)
    (fun o (_ : o ∈ summary.outcomes) => by cases o.status <;> simp)
    (fun o _ => by cases o.status <;> simp)
  rw [judge, ends_placeIn_bind, ends_get_bind] at h
  rcases ends_bind.1 h with ⟨⟨⟩, t, -, hrest⟩ | ⟨fault, hwrite, rfl⟩
  · refine Or.inr ?_
    cases hjudged : allFailed? (fun o : ArtifactOutcome => o.status ≠ .irMissing)
        (fun o => o.status = .failed) summary.outcomes with
    | some count =>
        rw [hjudged] at hrest hverdict
        split at hverdict
        · next hfailed =>
            rw [if_pos hfailed, ← Option.some.inj hverdict]
            exact (ends_throw_bind.1 hrest).1
        · cases hverdict
    | none =>
        rw [hjudged] at hrest hverdict
        split at hverdict
        · cases hverdict
        · next hfailed => rw [if_neg hfailed, (ends_pure.1 (ends_note_bind.1 hrest)).1]
  · obtain ⟨result, disk, haction, hresult, rfl⟩ := ends_onDisk.1 hwrite
    cases result with
    | ok value => cases hresult
    | error error => exact Or.inl ⟨_, error, by rw [Except.error.inj hresult], haction⟩

/-- **How a finalization ends.** -/
theorem finalize_ends (htools : tools.Orderly) {buildRoot : Option Path} {forbidden : Forbidden}
    {r : Except Fault FinalizeSummary}
    (h : Ends (pipeline.finalize tools buildRoot forbidden) w r w') :
    pipeline.FinalizeEnds buildRoot forbidden w r w' := by
  have hcourse {r : Except Fault (Search × List ArtifactOutcome)} {t : World}
      (hbatch : Ends (batch (pipeline.findModules buildRoot forbidden) Search.modules
        (fun found => pipeline.finalizeModule tools found.staging)) w r t) :
      pipeline.FinalizeCourse buildRoot forbidden w r t := by
    refine Course.of_ends (fun _ _ h => h) (fun found t hfound m hm w r w' hstep => ?_) hbatch
    obtain ⟨hstaging, hmodules⟩ := findModules_spec hfound
    exact finalizeModule_ends htools hstaging (hmodules m hm).1 (hmodules m hm).2 hstep
  rw [finalize_eq_batch] at h
  rcases ends_bind.1 h with ⟨⟨found, outcomes⟩, t, hbatch, hjudge⟩ | ⟨fault, hbatch, rfl⟩
  · rcases judge_ends hjudge with ⟨data, error, rfl, hwrite⟩ | rfl
    · exact .unwritten (hcourse hbatch) hwrite
    · exact .judged (hcourse hbatch)
  · refine .interrupted (hcourse hbatch) ?_
    cases hcourse hbatch with
    | unsearched search => exact unjudged_findModules _ _ _ _ _ search
    | stopped search split tried stop =>
        rw [stop.fault]
        exact fun _ => by simp

/-! ## Merging -/

/-- How a merge of all samples goes. -/
abbrev MergeCourse (pipeline : Pipeline) (tools : Toolbox) (extra : List String) :
    World → Except Fault (List Group × List MergeOutcome) → World → Prop :=
  Course (Ends pipeline.workspace.groups) id (fun _ => pipeline.Merges tools extra)
    fun _ => pipeline.MergeStops tools extra

/-- How a merge ends. -/
inductive MergeEnds (pipeline : Pipeline) (tools : Toolbox) (extra : List String) (w : World) :
    Except Fault (List MergeOutcome) → World → Prop
  /-- There are no groups to be found, or the batch was stopped. -/
  | interrupted {fault : Fault} {w' : World}
      (course : pipeline.MergeCourse tools extra w (.error fault) w')
      (unjudged : fault.Unjudged) : MergeEnds pipeline tools extra w (.error fault) w'
  /-- Every group was tried, and the batch was judged. -/
  | judged {groups : List Group} {outcomes : List MergeOutcome} {w' : World}
      (course : pipeline.MergeCourse tools extra w (.ok (groups, outcomes)) w') :
      MergeEnds pipeline tools extra w
        (if outcomes ≠ [] ∧ ∀ outcome ∈ outcomes, outcome.status = .failed
          then .error (.phase (.merges outcomes.length)) else .ok outcomes) w'

/-- **How a merge of all samples goes.** -/
theorem mergeAll_ends (htools : tools.Orderly) {r : Except Fault (List MergeOutcome)}
    (h : Ends (pipeline.mergeAll tools extra) w r w') : ∃ course,
      pipeline.MergeCourse tools (pipeline.settings.mergeArguments ++ extra) w course w' ∧
        r = course.map Prod.snd := by
  have hcourse {r : Except Fault (List Group × List MergeOutcome)} {t : World}
      (hbatch : Ends (batch pipeline.workspace.groups id fun _ =>
        pipeline.mergeGroup tools (pipeline.settings.mergeArguments ++ extra)) w r t) :
      pipeline.MergeCourse tools (pipeline.settings.mergeArguments ++ extra) w r t := by
    refine Course.of_ends (fun _ _ h => h) (fun found t hfound group hgroup w r w' hstep => ?_)
      hbatch
    obtain ⟨entry, -, hsamples⟩ := mem_groups hfound hgroup
    exact mergeGroup_ends htools hsamples hstep
  rw [mergeAll_eq] at h
  rcases ends_bind.1 h with ⟨done, t, hbatch, hlast⟩ | ⟨fault, hbatch, rfl⟩
  · obtain ⟨rfl, rfl⟩ := ends_pure.1 hlast
    exact ⟨_, hcourse hbatch, rfl⟩
  · exact ⟨_, hcourse hbatch, rfl⟩

lemma unjudged_mergeCourse {fault : Fault}
    (h : pipeline.MergeCourse tools extra w (.error fault) w') : fault.Unjudged := by
  cases h with
  | unsearched search => exact unjudged_groups _ _ _ search
  | stopped search split tried stop => exact stop.unjudged

/-- A merge is judged by its outcomes. -/
lemma verdict_eq (outcomes : List MergeOutcome) : verdict outcomes =
    if outcomes ≠ [] ∧ ∀ outcome ∈ outcomes, outcome.status = .failed
      then .error (.phase (.merges outcomes.length)) else .ok outcomes := by
  have hall : outcomes.filter (fun _ => true) = outcomes :=
    List.filter_eq_self.2 fun _ _ => rfl
  simp only [verdict, allFailed?, hall, List.all_eq_true, decide_eq_true_eq]
  split <;> split <;> simp_all

/-- **How a merge ends.** -/
theorem merge_ends (htools : tools.Orderly) {r : Except Fault (List MergeOutcome)}
    (h : Ends (pipeline.merge tools extra) w r w') :
    pipeline.MergeEnds tools (pipeline.settings.mergeArguments ++ extra) w r w' := by
  rcases ends_bind.1 h with ⟨outcomes, t, hall, hrest⟩ | ⟨fault, hall, rfl⟩
  · obtain ⟨rfl, rfl⟩ := h.unique (ends_merge hall)
    obtain ⟨course, hcourse, heq⟩ := mergeAll_ends htools hall
    cases course with
    | error fault => cases heq
    | ok done =>
        obtain ⟨groups, others⟩ := done
        rw [Except.ok.inj heq, verdict_eq]
        exact .judged hcourse
  · obtain ⟨course, hcourse, heq⟩ := mergeAll_ends htools hall
    cases course with
    | error fault' =>
        obtain rfl := Except.error.inj heq
        exact .interrupted hcourse (unjudged_mergeCourse hcourse)
    | ok done => cases heq

/-! ## Reporting -/

/-- How the batch of a report run goes: its items are what a merge of all samples leaves. -/
abbrev ReportCourse (pipeline : Pipeline) (tools : Toolbox) :
    World → Except Fault (List MergeOutcome × List ReportOutcome) → World → Prop :=
  Course (fun w merges t => ∃ course, pipeline.MergeCourse tools pipeline.settings.mergeArguments w
      course t ∧ merges = course.map Prod.snd) id (fun _ => pipeline.Reports)
    fun _ w merged fault _ => pipeline.ReportStops w merged fault

/-- How a report run ends. -/
inductive ReportEnds (pipeline : Pipeline) (tools : Toolbox) (w : World) :
    Except Fault ReportSummary → World → Prop
  /-- The merge of all samples was interrupted, or the batch was stopped. -/
  | interrupted {fault : Fault} {w' : World}
      (course : pipeline.ReportCourse tools w (.error fault) w')
      (unjudged : fault.Unjudged) : ReportEnds pipeline tools w (.error fault) w'
  /-- Every binary was tried, and the record or the document about them cannot be written. -/
  | unwritten {merges : List MergeOutcome} {reports : List ReportOutcome} {fault : Fault}
      {t w' : World} (course : pipeline.ReportCourse tools w (.ok (merges, reports)) t)
      (refused : Ends (pipeline.writeReport ⟨merges, reports⟩) t (.error fault) w')
      (unjudged : fault.Unjudged) : ReportEnds pipeline tools w (.error fault) w'
  /-- Every binary was tried, and the batch was judged. -/
  | judged {merges : List MergeOutcome} {reports : List ReportOutcome} {t w' : World}
      (course : pipeline.ReportCourse tools w (.ok (merges, reports)) t) :
      ReportEnds pipeline tools w
        (if (∃ outcome ∈ reports, outcome.state = .failed) ∧
            ∀ outcome ∈ reports, outcome.state ≠ .reported
          then .error (.phase (.reports (reports.countP fun outcome =>
            outcome.state ≠ .objectMissing)))
          else .ok ⟨merges, reports⟩) w'

lemma unjudged_writeReport (summary : ReportSummary) :
    FailsOnly Fault.Unjudged (pipeline.writeReport summary) := by
  refine (unjudged_store _).bind fun reports => (unjudged_onDisk _).bind fun _ => ?_
  refine FailsOnly.bind (FailsOnly.bind (FailsOnly.bind FailsOnly.get fun _ => FailsOnly.pure _)
    fun _ => FailsOnly.pure _) fun place => ?_
  exact FailsOnly.get.bind fun now => unjudged_onDisk _

/-- Writing the record and the document of a run keeps every directory and every link. -/
lemma keeps_writeReport (summary : ReportSummary) :
    Respects (OnDisk Keeps) (pipeline.writeReport summary) := by
  have hwrite (path : Path) (data : Octets) : Respects Keeps (write path data) :=
    fun _ _ _ h => (refiles_write h).keeps
  have hplace (directory : Path) : Respects (OnDisk Keeps) (placeIn directory) :=
    (Respects.get.bind fun _ => Respects.pure _).bind fun _ => Respects.pure _
  unfold writeReport Ir.writeWithDirectories
  refine Respects.bind ((respects_store _).mono fun h => Grows.keeps h) fun reports => ?_
  refine Respects.bind (Respects.onDisk (Respects.bind
    (respects_makeDirectories.mono Grows.keeps) fun _ => hwrite _ _)) fun _ => ?_
  exact (hplace _).bind fun place => Respects.get.bind fun now => (hwrite _ _).onDisk

/-- The judgement on a report run. -/
def judgement (summary : ReportSummary) : Except Fault ReportSummary :=
  match allFailed? (fun o : ReportOutcome => o.state ≠ .objectMissing)
      (fun o => o.state = .failed) summary.reports with
  | some count => .error (.phase (.reports count))
  | none => .ok summary

lemma judgement_eq {summary : ReportSummary} (hstates : ∀ o ∈ summary.reports,
      o.state = .failed ∨ o.state = .objectMissing ∨ o.state = .reported) :
    judgement summary = if (∃ outcome ∈ summary.reports, outcome.state = .failed) ∧
        ∀ outcome ∈ summary.reports, outcome.state ≠ .reported
      then .error (.phase (.reports (summary.reports.countP fun outcome =>
        outcome.state ≠ .objectMissing)))
      else .ok summary := by
  have hverdict := allFailed?_eq (fun o : ReportOutcome => o.state ≠ .objectMissing)
    (fun o => o.state = .failed) (fun o => o.state = .reported)
    (fun o (ho : o ∈ summary.reports) => by rcases hstates o ho with hs | hs | hs <;> simp [hs])
    (fun o ho => by rcases hstates o ho with hs | hs | hs <;> simp [hs])
  unfold judgement
  rw [hverdict]
  by_cases hfailed : (∃ outcome ∈ summary.reports, outcome.state = .failed) ∧
      ∀ outcome ∈ summary.reports, outcome.state ≠ .reported
  · rw [if_pos hfailed, if_pos hfailed]
  · rw [if_neg hfailed, if_neg hfailed]

/-- **A run is judged by its outcomes** once its record and its document are written. -/
theorem ends_conclude {summary : ReportSummary} {t : World}
    (hsamples : summary.merges = [] → ∃ path u,
      Ends (pipeline.workspace.store .rawProfiles) u (.ok path) w)
    (hwrite : Ends (pipeline.writeReport summary) w (.ok ()) t) : ∃ w',
    Ends (pipeline.conclude summary) w (judgement summary) w' ∧ w'.disk = t.disk ∧
      w'.calls = t.calls := by
  unfold conclude judgement
  cases allFailed? (fun o : ReportOutcome => o.state ≠ .objectMissing)
      (fun o => o.state = .failed) summary.reports with
  | some count =>
    refine ⟨t, hwrite.bind ?_, rfl, rfl⟩
    exact Ends.bind_error (ends_throw.2 ⟨rfl, rfl⟩)
  | none =>
    by_cases hempty : summary.merges.isEmpty = true
    · -- the store of samples was there when the groups were looked for
      obtain ⟨path, u, hstore⟩ := hsamples (by simpa using hempty)
      have hagain := store_again hstore (keeps_writeReport _ _ _ _ hwrite)
      refine ⟨noted .warning ("No raw profile samples found in " ++ path.text) t,
        hwrite.bind ?_, rfl, rfl⟩
      change Ends (if summary.merges.isEmpty = true then _ else _) _ _ _
      rw [if_pos hempty]
      exact hagain.bind (ends_note_bind.2 (ends_pure.2 ⟨rfl, rfl⟩))
    · refine ⟨t, hwrite.bind ?_, rfl, rfl⟩
      change Ends (if summary.merges.isEmpty = true then _ else _) _ _ _
      rw [if_neg hempty]
      exact ends_pure.2 ⟨rfl, rfl⟩

/-- A conclusion fails where the record or the document cannot be written, or it is the
judgement. -/
lemma conclude_ends {summary : ReportSummary} {r : Except Fault ReportSummary}
    (hstates : ∀ o ∈ summary.reports,
      o.state = .failed ∨ o.state = .objectMissing ∨ o.state = .reported)
    (hsamples : summary.merges = [] → ∃ path u,
      Ends (pipeline.workspace.store .rawProfiles) u (.ok path) w)
    (h : Ends (pipeline.conclude summary) w r w') :
    (∃ fault, r = .error fault ∧ Ends (pipeline.writeReport summary) w (.error fault) w') ∨
      r = if (∃ outcome ∈ summary.reports, outcome.state = .failed) ∧
            ∀ outcome ∈ summary.reports, outcome.state ≠ .reported
          then .error (.phase (.reports (summary.reports.countP fun outcome =>
            outcome.state ≠ .objectMissing)))
          else .ok summary := by
  rcases ends_bind.1 h with ⟨⟨⟩, t, hwritten, -⟩ | ⟨fault, hwrite, rfl⟩
  · obtain ⟨u, hjudged, -⟩ := ends_conclude hsamples hwritten
    exact Or.inr ((h.unique hjudged).1.trans (judgement_eq hstates))
  · exact Or.inl ⟨fault, rfl, hwrite⟩

/-- **How a report run ends.** -/
theorem report_ends (htools : tools.Orderly) {r : Except Fault ReportSummary}
    (h : Ends (pipeline.report tools extra) w r w') : pipeline.ReportEnds tools w r w' := by
  have hcourse {r : Except Fault (List MergeOutcome × List ReportOutcome)} {t : World}
      (hbatch : Ends (batch (pipeline.mergeAll tools []) id fun _ =>
        pipeline.reportOne tools (pipeline.settings.reportArguments ++ extra)) w r t) :
      pipeline.ReportCourse tools w r t := by
    refine Course.of_ends (fun r u hall => ?_) (fun _ _ _ merged _ w r w' hstep => ?_) hbatch
    · simpa using mergeAll_ends htools hall
    · exact reportOne_ends htools hstep
  rw [report_eq] at h
  rcases ends_bind.1 h with ⟨⟨merges, reports⟩, t, hbatch, hlast⟩ | ⟨fault, hbatch, rfl⟩
  · have hall := hcourse hbatch
    obtain ⟨started, ⟨⟨groups, _⟩, hmerges, rfl⟩, htrace⟩ : ∃ started,
        (∃ done, pipeline.MergeCourse tools pipeline.settings.mergeArguments w (.ok done) started ∧
          merges = done.2) ∧ Trace pipeline.Reports started merges reports t := by
      cases hall with
      | tried search all =>
          obtain ⟨course, hmerges, heq⟩ := search
          cases course with
          | error fault => cases heq
          | ok done => exact ⟨_, ⟨done, hmerges, Except.ok.inj heq⟩, all⟩
    have hstates (o : ReportOutcome) (ho : o ∈ reports) :
        o.state = .failed ∨ o.state = .objectMissing ∨ o.state = .reported := by
      obtain ⟨merged, -, _, _, hreports⟩ := htrace.exists_item o ho
      exact hreports.state
    have hsamples (hnone : merges = []) : ∃ path u,
        Ends (pipeline.workspace.store .rawProfiles) u (.ok path) t := by
      subst hnone
      cases htrace
      cases hmerges with
      | tried search all =>
          obtain ⟨-, rfl⟩ := all.eq_nil
          obtain ⟨path, hstore⟩ := store_of_groups search
          exact ⟨path, w, hstore⟩
    rcases conclude_ends hstates hsamples hlast with ⟨fault, rfl, hwrite⟩ | rfl
    · exact .unwritten hall hwrite (unjudged_writeReport _ _ _ _ hwrite)
    · exact .judged hall
  · refine .interrupted (hcourse hbatch) ?_
    cases hcourse hbatch with
    | unsearched search =>
        obtain ⟨course, hmerges, heq⟩ := search
        cases course with
        | error fault' => exact Except.error.inj heq ▸ unjudged_mergeCourse hmerges
        | ok done => cases heq
    | stopped search split tried stop => exact stop.unjudged

/-! ## The main result -/

/-- **How the phases end.**  As long as calls that fail fail with failures of the tool, a phase
gives one outcome for each of its items, in order and of the kind that the item calls for, and then
fails as a whole exactly if some item failed and none went well; or it is interrupted by one of the
operations on the disk that are not guarded. -/
theorem phases_end (htools : tools.Orderly) :
    (∀ buildRoot forbidden w r w', Ends (pipeline.finalize tools buildRoot forbidden) w r w' →
      pipeline.FinalizeEnds buildRoot forbidden w r w') ∧
    (∀ extra w r w', Ends (pipeline.merge tools extra) w r w' →
      pipeline.MergeEnds tools (pipeline.settings.mergeArguments ++ extra) w r w') ∧
    ∀ extra w r w', Ends (pipeline.report tools extra) w r w' →
      pipeline.ReportEnds tools w r w' :=
  ⟨fun _ _ _ _ _ h => finalize_ends htools h, fun _ _ _ _ h => merge_ends htools h,
    fun _ _ _ _ h => report_ends htools h⟩

/-! ## A tool that fails, and a name that is too long -/

section Samples

/-- Tools that fail. -/
def failing : Toolbox := fun _ request disk =>
  { outcome := .error (.tool ⟨request.argv, 1, "out of order"⟩), disk }

/-- Tools that succeed and do nothing. -/
def idle : Toolbox := fun _ _ disk =>
  { outcome := .ok "", disk }

lemma orderly_failing : failing.Orderly := by
  rintro _ _ _ _ h
  exact ⟨_, (Except.error.inj h).symm⟩

lemma orderly_idle : idle.Orderly := by
  rintro _ _ _ _ h
  cases h

/-- A world with groups of one sample each. -/
def groupWorld (names : List String) : World where
  disk :=
    { here := []
      entries := [(["w"], .directory), (["merged-profiles", "w"], .directory),
        (["raw-profiles", "w"], .directory)] ++ names.flatMap fun name =>
          [([name, "raw-profiles", "w"], .directory),
            (["s.profraw", name, "raw-profiles", "w"], .file (octetsOf "x") false)] }
  clock := ⟨2024, 5, 1, 0, 0, 0, 0⟩

lemma ends_groups_single : Ends profilePipeline.workspace.groups (groupWorld ["a"])
    (.ok [rawGroup "a"]) (groupWorld ["a"]) :=
  ends_groups_of_samples ["a"] (by decide +kernel) (by decide +kernel) (by decide +kernel)

/-- If nothing is in the way of its profile, a group has a failed outcome. -/
lemma ends_mergeGroup_failing {group : Group} {profile : Path} (hsamples : group.samples ≠ [])
    (hplace : Ends (pipeline.workspace.mergedProfile group.name) w (.ok profile) w')
    (hclear : Ends (removeIfThere profile) w'.disk (.ok ()) w'.disk)
    (hdirectory : Ends (makeDirectories profile.parent) w'.disk (.ok ()) w'.disk) :
    ∃ failure after, Ends (pipeline.mergeGroup failing extra group) w
      (.ok (failedMerge group profile failure)) after := by
  obtain ⟨t, hprepare, ht, -⟩ := ends_prepare hplace hclear
  rw [← ht] at hdirectory hclear
  obtain ⟨failure, t', hcall, ht'⟩ : ∃ failure t', Ends (Tool.mergeProfiles failing
      pipeline.toolchain.llvmProfdata group.samples profile extra) t (.error (.tool failure)) t' ∧
        t'.disk = t.disk := by
    unfold Tool.mergeProfiles
    rw [if_neg hsamples]
    exact ⟨_, _, Ends.bind (ends_onDisk_ok.2 ⟨_, hdirectory, rfl⟩)
      (Ends.bind_error (ends_call.2 ⟨rfl, rfl⟩)), rfl⟩
  have hhandled (u : World) (hu : u.disk = t.disk) : Ends (do
      onDisk (removeIfThere profile)
      return failedMerge group profile failure) u (.ok (failedMerge group profile failure))
      { u with disk := t.disk } :=
    (ends_onDisk_ok.2 ⟨_, by rw [hu]; exact hclear, rfl⟩).bind (ends_pure.2 ⟨rfl, rfl⟩)
  rw [mergeGroup_eq]
  exact ⟨failure, _, hprepare.bind
    (Ends.catch_error hcall.bind_error (ends_note_bind.2 (hhandled _ ht')))⟩

lemma ends_merge_failing : ∃ after, Ends (profilePipeline.merge failing []) (groupWorld ["a"])
    (.error (.phase (.merges 1))) after := by
  obtain ⟨failure, after, hgroup⟩ : ∃ failure after,
      Ends (profilePipeline.mergeGroup failing [] (rawGroup "a")) (groupWorld ["a"])
        (.ok (failedMerge (rawGroup "a") (storedProfile "a") failure)) after := by
    have hplace : Ends (profilePipeline.workspace.mergedProfile "a") (groupWorld ["a"])
        (.ok (storedProfile "a")) (groupWorld ["a"]) := by
      decide +kernel
    exact ends_mergeGroup_failing (List.cons_ne_nil _ _) hplace (by decide +kernel)
      (by decide +kernel)
  exact ⟨after, ends_merge (ends_mergeAll_single ends_groups_single hgroup)⟩

/-- Where the tool fails for the only group there is, the group has an outcome and the merge as a
whole fails. -/
theorem phases_end_failing : failing.Orderly ∧ ∃ outcome after,
    Ends (profilePipeline.merge failing []) (groupWorld ["a"]) (.error (.phase (.merges 1))) after ∧
      profilePipeline.MergeCourse failing [] (groupWorld ["a"]) (.ok ([rawGroup "a"], [outcome]))
        after ∧ outcome.status = .failed := by
  obtain ⟨after, hmerge⟩ := ends_merge_failing
  obtain ⟨r, hr, hends⟩ : ∃ r, .error (.phase (.merges 1)) = r ∧
      profilePipeline.MergeEnds failing [] (groupWorld ["a"]) r after :=
    ⟨_, rfl, (phases_end orderly_failing).2.1 [] _ _ _ hmerge⟩
  cases hends with
  | interrupted course unjudged => exact absurd (Except.error.inj hr).symm (unjudged _)
  | judged course =>
      next groups outcomes =>
      split at hr
      · next hfailed =>
          have hlength : outcomes.length = 1 := by simpa [eq_comm] using hr
          obtain ⟨outcome, rfl⟩ := List.length_eq_one_iff.1 hlength
          have hgroups : groups = [rawGroup "a"] := by
            cases course with
            | tried search all => exact Except.ok.inj (search.unique ends_groups_single).1
          subst hgroups
          exact ⟨orderly_failing, outcome, after, hmerge, course, hfailed.2 _ List.mem_cons_self⟩
      · cases hr

/-- A name that fits a directory, but with the suffix of profiles does not fit a file. -/
def longName : String := String.ofList (List.replicate 250 'a')

lemma toList_longName : longName.toList = List.replicate 250 'a' := String.toList_ofList

lemma directoryName_longName : Artifact.directoryName longName = .ok longName := by
  rw [Artifact.directoryName_eq_self_iff, toList_longName]
  refine ⟨?_, ?_, ?_, by decide, by decide⟩
  · rw [Ne, ← String.toList_inj, toList_longName]
    decide
  · intro c hc
    rw [List.eq_of_mem_replicate hc]
    decide
  · intro h
    exact absurd (List.eq_of_mem_replicate (h.subset List.mem_cons_self)) (by decide)

lemma longName_tooLong : (longName ++ mergedSuffix).utf8ByteSize > nameLimit := by
  decide +kernel

lemma not_mem_longName : '\x00' ∉ longName.toList :=
  Path.not_mem_replicate 250 (by decide)

/-- A world with a group of a long name and another group. -/
def longWorld : World :=
  groupWorld [longName, "b"]

lemma ends_groups_longWorld : Ends profilePipeline.workspace.groups longWorld
    (.ok [rawGroup longName, rawGroup "b"]) longWorld := by
  have hstore : Ends (profilePipeline.workspace.store .rawProfiles) longWorld
      (.ok (pathOf ["raw-profiles", "w"])) longWorld := by
    decide +kernel
  have hlong : Path.IsName longName := Artifact.isName_directoryName directoryName_longName
  have hsorted : Path.before (pathOf [longName, "raw-profiles", "w"])
      (pathOf ["b", "raw-profiles", "w"]) = true := by
    have hlt : ¬ "b" < longName := by
      change ¬ "b".toList < longName.toList
      rw [toList_longName]
      decide
    simp [Path.before, Path.sortKey, pathOf, List.cons_lt_cons_iff, hlt]
  have hlists : Lists longWorld.disk ["raw-profiles", "w"] [longName, "b"] := by
    refine ⟨by decide +kernel, by decide +kernel, by decide +kernel, by decide +kernel, ?_, ?_⟩
    · simpa [hlong] using (by decide +kernel : Path.IsName "b")
    · simpa using hsorted
  refine ends_groups_of_lists hstore hlists (by decide : hasSuffix rawSuffix "s.profraw" = true)
    fun name hmem => ?_
  have hnul : hasNul (pathOf [longName, "raw-profiles", "w"]) = false := by
    rw [← child_pathOf _ hlong]
    exact hasNul_child hlong (by decide +kernel) not_mem_longName
  rw [List.mem_cons, List.mem_singleton] at hmem
  rcases hmem with rfl | rfl
  · refine ⟨⟨hnul, by decide +kernel, by decide +kernel, by decide +kernel, by decide +kernel,
      by simp⟩, ?_, by decide +kernel⟩
    rw [← child_pathOf _ (by decide +kernel)]
    exact hasNul_child (by decide +kernel) hnul (by decide +kernel)
  · exact ⟨by decide +kernel, by decide +kernel, by decide +kernel⟩

/-- The path of the profile of that group is too long, and nothing is done. -/
lemma ends_mergeAll_longWorld : ∃ after,
    Ends (profilePipeline.mergeAll idle []) longWorld
      (.error (.disk (.system (Cause.nameTooLong.about (storedProfile longName))))) after ∧
      after.disk = longWorld.disk ∧ after.calls = [] := by
  have hstore : Ends (profilePipeline.workspace.store .mergedProfiles) longWorld
      (.ok (profilesPath ["w"])) longWorld := by
    decide +kernel
  have hname : Path.IsName (longName ++ mergedSuffix) :=
    Artifact.isName_of_directoryName directoryName_longName (by decide)
      (by rfl : lastChar? mergedSuffix = some 'a') (by decide)
  have hplace : Ends (profilePipeline.workspace.mergedProfile (rawGroup longName).name) longWorld
      (.ok (storedProfile longName)) longWorld :=
    hstore.bind ((ends_directoryName_ok.2 ⟨directoryName_longName, rfl⟩).bind
      (ends_pure.2 ⟨rfl, rfl⟩))
  have hnul : hasNul (storedProfile longName) = false := by
    refine hasNul_child hname (by decide +kernel) ?_
    rw [String.toList_append, List.mem_append, not_or]
    exact ⟨not_mem_longName, by decide⟩
  have hleads : longWorld.disk.find (profilesPath ["w"]) true =
      .ok ["merged-profiles", "w"] := by
    decide +kernel
  have hlong : longWorld.disk.find (storedProfile longName) false = .error .nameTooLong := by
    rw [storedProfile, find_child hleads (by decide +kernel) hname (by simp),
      if_pos (Or.inr longName_tooLong)]
  obtain ⟨after, hprepare, hdisk, hcalls⟩ :=
    ends_prepare hplace (removeIfThere_of_tooLong hnul hlong)
  have hgroup : Ends (profilePipeline.mergeGroup idle [] (rawGroup longName)) longWorld
      (.error (.disk (.system (Cause.nameTooLong.about (storedProfile longName))))) after := by
    rw [mergeGroup_eq]
    exact hprepare.bind_error
  refine ⟨after, ends_groups_longWorld.bind ?_, hdisk, hcalls⟩
  rw [List.mapM_cons]
  exact hgroup.bind_error

/-- **A group with a long name stops the merge.**  The path of its profile is too long, and the
group after it is not merged. -/
theorem not_merge_of_long_name : idle.Orderly ∧
    Ends profilePipeline.workspace.groups longWorld
      (.ok [rawGroup longName, rawGroup "b"]) longWorld ∧
    (∀ name ∈ [longName, "b"], Artifact.directoryName name = .ok name ∧
      name ∉ ["summary.json", "summary.md"]) ∧
    (∀ name, longWorld.disk.node? [name, "merged-profiles", "w"] = none) ∧
    ∃ after, Ends (profilePipeline.merge idle []) longWorld
      (.error (.disk (.system (Cause.nameTooLong.about (storedProfile longName))))) after ∧
      after.calls = [] := by
  refine ⟨orderly_idle, ends_groups_longWorld, ?_, ?_, ?_⟩
  · simp only [List.forall_mem_cons, List.not_mem_nil, false_imp_iff, implies_true, and_true]
    exact ⟨⟨directoryName_longName, by decide +kernel⟩, by decide +kernel, by decide +kernel⟩
  · intro name
    simp [longWorld, groupWorld, node?, Table.get?]
  · obtain ⟨after, hmerge, -, hcalls⟩ := ends_mergeAll_longWorld
    exact ⟨after, hmerge.bind_error, hcalls⟩

end Samples

end WasmCoverage.Pipeline
