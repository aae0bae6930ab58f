import WasmCoverage.Proofs.Pipeline.Staging
import WasmCoverage.Proofs.Workspace

/-!
# Artifacts belong to their outcomes

A finalization tries one module after another and writes all of them into one staging area.  Since
an artifact is found by the stem of its module, a later module with the same stem takes its place.
**`finalize_owned`** says that nothing else does: what is staged under the name of a processed
outcome is the outcome's own when the finalization ends, unless a later module with the same stem
was tried.

The proof follows the batch.  It is taken apart at the outcome (`ends_mapM_split`); the outcome's
own step stages what belongs to it (`content?_stage`), and every later step writes under other
names (`restages_modules`), the document about the run included (`restages_judge`).
-/

namespace WasmCoverage.Pipeline

open WasmCoverage.Disk WasmCoverage.Text

variable {pipeline : Pipeline} {tools : Toolbox} {objectOf : Octets → Octets} {staging : Path}
  {area : Location} {world before tried after : World}

/-! ## The two halves of a finalization -/

/-- Where modules are searched for. -/
def searchRoot (staging : Path) : Option Path → Run Path
  | some path => onDisk (Disk.resolve path)
  | none => pure staging

lemma respects_searchRoot (staging : Path) (buildRoot : Option Path) :
    Respects (OnDisk Eq) (searchRoot staging buildRoot) := by
  cases buildRoot with
  | some path => exact respects_resolve.onDisk
  | none => exact Respects.pure _

/-- What was tried: the staging directory, the modules and the summary of their outcomes. -/
structure Batch where
  staging : Path
  modules : List Module
  summary : FinalizeSummary

/-- Try every module. -/
def tryModules (pipeline : Pipeline) (tools : Toolbox) (buildRoot : Option Path)
    (forbidden : Forbidden) : Run Batch := do
  let staging ← pipeline.workspace.store .staging
  let root ← searchRoot staging buildRoot
  let modules ← discover root pipeline.settings.build.markerOctets forbidden
  note .info ("Found " ++ toString modules.length ++ " instrumented module(s) under " ++ root.text)
  let outcomes ← modules.mapM (pipeline.finalizeModule tools staging)
  return ⟨staging, modules, ⟨root.text, staging.text, outcomes⟩⟩

/-- Write the document about the outcomes, and judge the batch as a whole. -/
def judge (staging : Path) (summary : FinalizeSummary) : Run FinalizeSummary := do
  let document := summary.markdown (← placeIn staging) (← get).clock
  onDisk (Disk.write (staging.child finalizeDocument) (octetsOf document))
  if let some count := allFailed? (fun o : ArtifactOutcome => o.status ≠ .irMissing)
      (fun o => o.status = .failed) summary.outcomes then
    throw (.phase (.modules count))
  note .info ("Processed files have been saved to " ++ staging.text)
  return summary

/-- **A finalization tries every module, and then judges the batch.** -/
theorem finalize_eq (buildRoot : Option Path) (forbidden : Forbidden) :
    pipeline.finalize tools buildRoot forbidden =
      pipeline.tryModules tools buildRoot forbidden >>= fun batch =>
        judge batch.staging batch.summary := by
  cases buildRoot <;>
    simp only [tryModules, searchRoot, bind_assoc, pure_bind] <;> rfl

/-- A batch is tried after the search for its modules. -/
lemma ends_tryModules {buildRoot : Option Path} {forbidden : Forbidden} {root : Path}
    {modules : List Module} {outcomes : List ArtifactOutcome} {w₁ w₂ w₃ w₄ : World}
    (hstore : Ends (pipeline.workspace.store .staging) world (.ok staging) w₁)
    (hroot : Ends (searchRoot staging buildRoot) w₁ (.ok root) w₂)
    (hdiscover : Ends (discover root pipeline.settings.build.markerOctets forbidden) w₂
      (.ok modules) w₃)
    (hnote : Ends (note .info ("Found " ++ toString modules.length ++
      " instrumented module(s) under " ++ root.text)) w₃ (.ok ()) w₄)
    (hbatch : Ends (modules.mapM (pipeline.finalizeModule tools staging)) w₄ (.ok outcomes)
      tried) :
    Ends (pipeline.tryModules tools buildRoot forbidden) world
      (.ok ⟨staging, modules, ⟨root.text, staging.text, outcomes⟩⟩) tried :=
  hstore.bind (hroot.bind (hdiscover.bind (hnote.bind (hbatch.bind (ends_pure.2 ⟨rfl, rfl⟩)))))

/-- What happens until every module was tried. -/
lemma tryModules_spec {buildRoot : Option Path} {forbidden : Forbidden} {batch : Batch}
    (h : Ends (pipeline.tryModules tools buildRoot forbidden) world (.ok batch) tried) :
    ∃ before started, Ends (pipeline.workspace.store .staging) world (.ok batch.staging) before ∧
      before.disk = started.disk ∧ (∀ m ∈ batch.modules, m.Sound) ∧
      Ends (batch.modules.mapM (pipeline.finalizeModule tools batch.staging)) started
        (.ok batch.summary.outcomes) tried := by
  obtain ⟨store, before, hstore, hrest⟩ := ends_bind_ok.1 h
  obtain ⟨root, w₁, hroot, hrest⟩ := ends_bind_ok.1 hrest
  obtain ⟨modules, w₂, hdiscover, hrest⟩ := ends_bind_ok.1 hrest
  obtain ⟨⟨⟩, w₃, hnote, hrest⟩ := ends_bind_ok.1 hrest
  obtain ⟨outcomes, w₄, hbatch, hlast⟩ := ends_bind_ok.1 hrest
  obtain ⟨heq, rfl⟩ := ends_pure.1 hlast
  obtain rfl := Except.ok.inj heq
  have hroot' : before.disk = w₁.disk := respects_searchRoot _ _ _ _ _ hroot
  refine ⟨before, w₃, hstore, ?_, discover_sound hdiscover, hbatch⟩
  rw [hroot', respects_discover _ _ _ _ hdiscover]
  exact respects_note (R := Eq) _ _ _ _ _ hnote

/-- A batch that is judged well is answered as it is. -/
lemma eq_of_judge {summary returned : FinalizeSummary}
    (h : Ends (judge staging summary) world (.ok returned) after) : returned = summary := by
  obtain ⟨place, w₁, -, hrest⟩ := ends_bind_ok.1 h
  obtain ⟨now, w₂, -, hrest⟩ := ends_bind_ok.1 hrest
  obtain ⟨⟨⟩, w₃, -, hrest⟩ := ends_bind_ok.1 hrest
  split at hrest
  · obtain ⟨_, w₄, hthrow, -⟩ := ends_bind_ok.1 hrest
    cases (ends_throw.1 hthrow).1
  · obtain ⟨⟨⟩, w₄, -, hlast⟩ := ends_bind_ok.1 hrest
    exact (Except.ok.inj (ends_pure.1 hlast).1)

/-! ## The batch -/

/-- The names that modules are staged under, if they are tried. -/
def TriedNames (modules : List Module) (name : String) : Prop :=
  ∃ m ∈ modules, m.ir? ≠ none ∧ m.Staged name

/-- In an area, a batch changes files of the modules that it tries. -/
lemma restages_modules {modules : List Module} (hsound : ∀ m ∈ modules, m.Sound)
    (hstaging : staging.Proper)
    (htools : tools.Emits pipeline.toolchain.clang pipeline.settings.build.targetTriple) :
    Respects (OnDisk (Restages staging area (TriedNames modules)))
      (modules.mapM (pipeline.finalizeModule tools staging)) := by
  refine Respects.mapM fun m hm => ?_
  refine Respects.mono (fun h => Restages.mono (fun name hname => ?_) h)
    (restages_finalizeModule (hsound m hm) hstaging htools)
  exact ⟨m, hm, hname⟩

/-- The verdict on a batch writes the document about it. -/
lemma respects_judge {R : Disk → Disk → Prop} [Std.Refl R] [IsTrans Disk R]
    (hwrite : ∀ data, Respects R (write (staging.child finalizeDocument) data))
    (summary : FinalizeSummary) : Respects (OnDisk R) (judge staging summary) := by
  have hlast : Respects (OnDisk R) (do
      note .info ("Processed files have been saved to " ++ staging.text)
      return summary) := (respects_note _ _).bind fun _ => Respects.pure _
  have hplace : Respects (OnDisk R) (placeIn staging) :=
    (Respects.get.bind fun _ => Respects.pure _).bind fun _ => Respects.pure _
  refine hplace.bind fun place => Respects.get.bind fun now => ?_
  refine Respects.bind (hwrite _).onDisk fun _ => ?_
  split
  · exact (Respects.throw _).bind fun _ => hlast
  · exact hlast

lemma restages_judge (summary : FinalizeSummary) :
    Respects (OnDisk (Restages staging area (· = finalizeDocument))) (judge staging summary) :=
  respects_judge (fun data => restages_write (by decide) (by rfl) data) summary

/-- An outcome names its module, and says that IR is missing where it is. -/
lemma name_of_finalizeModule {m : Module} {outcome : ArtifactOutcome}
    (h : Ends (pipeline.finalizeModule tools staging m) world (.ok outcome) after) :
    outcome.name = m.name ∧ outcome.modulePath = m.path.text ∧
      (outcome.status = .irMissing → m.ir? = none) := by
  rcases finalizeModule_spec h with ⟨hir, rfl⟩ | ⟨ir, -, h⟩
  · exact ⟨rfl, rfl, fun _ => hir⟩
  · rcases h with ⟨count, t, t', -, -, -, rfl⟩ | ⟨hname, hpath, hstatus⟩
    · exact ⟨rfl, rfl, fun h => by cases h⟩
    · exact ⟨hname, hpath, fun h => by rw [hstatus] at h; cases h⟩

/-! ## Artifacts of one outcome -/

/-- The staged artifacts of an outcome are its own: they were made of its module and of the IR that
belongs to the module. -/
structure Owned (objectOf : Octets → Octets) (staging module ir : Path) (before after : Disk)
    (outcome : ArtifactOutcome) : Prop where
  modulePath : outcome.modulePath = module.text
  name : outcome.name = module.stem
  paired : module.withSuffix? irSuffix = some ir
  objectPath : outcome.objectPath = some (staging.child (module.stem ++ objectSuffix)).text
  /-- The staged IR is the IR neutralized, and the object was compiled from it. -/
  staged : ∃ data neutral count, before.content? ir = some data ∧
    Ir.neutralizeOctets data = .ok (neutral, count) ∧ outcome.neutralized = count ∧
    after.content? (staging.child (module.stem ++ irSuffix)) = some neutral ∧
    after.content? (staging.child (module.stem ++ objectSuffix)) = some (objectOf neutral)
  /-- The staged module is a copy. -/
  copied : ∃ data, before.content? module = some data ∧
    after.content? (staging.child module.name) = some data
  /-- The build output is as it was. -/
  kept : after.content? ir = before.content? ir ∧ after.content? module = before.content? module

lemma Owned.content?_staged {module ir : Path} {disk disk' : Disk} {outcome : ArtifactOutcome}
    (h : Owned objectOf staging module ir disk disk' outcome) :
    disk'.content? (staging.child (module.stem ++ irSuffix)) =
      (disk.content? ir).bind fun data => (Ir.neutralizeOctets data).toOption.map Prod.fst := by
  obtain ⟨data, neutral, count, hdata, hneutral, -, hstaged, -⟩ := h.staged
  rw [hstaged, hdata, Option.bind_some, hneutral]
  rfl

/-- What is staged for a module stays its own while files under other names are written. -/
lemma Owned.refiles {names : String → Prop} {m : Module} {ir : Path} {disk disk' disk'' : Disk}
    {outcome : ArtifactOutcome} (hm : m.Sound) (harea : disk'.Area staging area)
    (h : Owned objectOf staging m.path ir disk disk' outcome)
    (hrefiles : RefilesIn area names disk' disk'') (hnames : ∀ name, m.Staged name → ¬ names name)
    (hir : ¬ disk'.LeadsInto ir area) (hmodule : ¬ disk'.LeadsInto m.path area) :
    Owned objectOf staging m.path ir disk disk'' outcome := by
  have hchild {name : String} (hname : Path.IsName name) (hstaged : m.Staged name) :
      disk''.content? (staging.child name) = disk'.content? (staging.child name) :=
    hrefiles.content?_child harea hname (hnames name hstaged)
  obtain ⟨data, neutral, count, hdata, hneutral, hcount, hstagedIr, hobject⟩ := h.staged
  obtain ⟨copied, hcopied, hcopy⟩ := h.copied
  refine ⟨h.modulePath, h.name, h.paired, h.objectPath, ⟨data, neutral, count, hdata, hneutral,
    hcount, ?_, ?_⟩, ⟨copied, hcopied, ?_⟩, ?_, ?_⟩
  · exact (hchild hm.isName_ir (Or.inl rfl)).trans hstagedIr
  · exact (hchild hm.isName_object (Or.inr (Or.inl rfl))).trans hobject
  · exact (hchild hm.isName (Or.inr (Or.inr rfl))).trans hcopy
  · exact (hrefiles.content?_outside hir).trans h.kept.1
  · exact (hrefiles.content?_outside hmodule).trans h.kept.2

/-- It is all the same which disk the build output is read from, if it holds the same. -/
lemma Owned.reread {module ir : Path} {disk disk' disk'' : Disk} {outcome : ArtifactOutcome}
    (h : Owned objectOf staging module ir disk' disk'' outcome)
    (hir : disk'.content? ir = disk.content? ir)
    (hmodule : disk'.content? module = disk.content? module) :
    Owned objectOf staging module ir disk disk'' outcome := by
  refine ⟨h.modulePath, h.name, h.paired, h.objectPath, ?_, ?_, ?_⟩
  · rw [← hir]
    exact h.staged
  · rw [← hmodule]
    exact h.copied
  · rw [← hir, ← hmodule]
    exact h.kept

/-- The step of an outcome that is processed stages what is its own. -/
lemma owned_of_finalizeModule {m : Module} {outcome : ArtifactOutcome}
    (harea : world.disk.Area staging area) (hm : m.Sound) (hstaging : staging.Proper)
    (htools : tools.Compiles pipeline.toolchain.clang pipeline.settings.build.targetTriple
      objectOf)
    (h : Ends (pipeline.finalizeModule tools staging m) world (.ok outcome) after)
    (hprocessed : outcome.status = .processed) : ∃ ir, m.ir? = some ir ∧
      (¬ world.disk.LeadsInto ir area → ¬ world.disk.LeadsInto m.path area →
        Owned objectOf staging m.path ir world.disk after.disk outcome) := by
  have hrefiles := restages_finalizeModule hm hstaging htools.toEmits _ _ _ h harea
  rcases finalizeModule_spec h with ⟨-, rfl⟩ | ⟨ir, hir, hrest⟩
  · cases hprocessed
  · refine ⟨ir, hir, fun hout hmodule => ?_⟩
    rcases hrest with ⟨count, t, t', ht, ht', hstage, rfl⟩ | ⟨-, -, hstatus⟩
    · rw [← ht] at harea hmodule hout hrefiles ⊢
      rw [← ht'] at hrefiles ⊢
      obtain ⟨data, neutral, copied, hdata, hneutral, hstagedIr, hobject, hcopy, hsource⟩ :=
        content?_stage harea hm hstaging htools hstage
      refine ⟨rfl, rfl, hm.ir ir hir, rfl, ?_, ?_, ?_, ?_⟩
      · exact ⟨data, neutral, count, hdata, hneutral, rfl, hstagedIr, hobject⟩
      · exact ⟨copied, hsource hmodule, hcopy⟩
      · exact hrefiles.content?_outside hout
      · exact hrefiles.content?_outside hmodule
    · rw [hstatus] at hprocessed
      cases hprocessed

/-- Of a later batch that is tried without modules of the same stem, no module is staged under the
same name. -/
lemma not_triedNames {m : Module} {modules : List Module} {outcomes : List ArtifactOutcome}
    {outcome : ArtifactOutcome} (hm : m.Sound) (hsound : ∀ m ∈ modules, m.Sound)
    (hname : outcome.name = m.name)
    (h : Ends (modules.mapM (pipeline.finalizeModule tools staging)) world (.ok outcomes) after)
    (hlater : ∀ other ∈ outcomes, other.name = outcome.name → other.status = .irMissing)
    (name : String) (hstaged : m.Staged name) : ¬ TriedNames modules name := by
  rintro ⟨other, hmem, hir, hother⟩
  have hsame : other.name = m.name := hother.name_eq (hsound other hmem) hm hstaged
  obtain ⟨answer, hanswer, t, t', -, hstep⟩ :=
    Ends.exists_answer (I := fun _ => True) h trivial (fun _ _ _ _ _ _ _ => trivial) hmem
  obtain ⟨hnamed, -, hmissing⟩ := name_of_finalizeModule hstep
  exact hir (hmissing (hlater answer hanswer (by rw [hnamed, hsame, hname])))

/-! ## The main result -/

/-- Where a finalization stages: the store that it asks for first leads to a directory in which no
link stands. -/
structure StagesIn (pipeline : Pipeline) (world before : World) (staging : Path)
    (area : Location) : Prop where
  made : Ends (pipeline.workspace.store .staging) world (.ok staging) before
  proper : staging.Proper
  leads : before.disk.find staging true = .ok area
  plain : ∀ name, before.disk.NoLink (name :: area)

lemma StagesIn.isArea (h : StagesIn pipeline world before staging area) :
    before.disk.Area staging area := by
  obtain ⟨hnul, location, hfind, hdir⟩ := Workspace.hasDirectory_store h.made
  obtain rfl := Except.ok.inj (h.leads.symm.trans hfind)
  exact ⟨hnul, h.leads, hdir, h.plain⟩

/-- **Artifacts belong to their outcomes.**  However a finalization ends after it tried every
module, what is staged for a processed outcome is the outcome's own, unless a later module with the
same stem was tried.  The IR and the module of the outcome must not be entries of the staging area
themselves, as they are if links lead there. -/
theorem finalize_owned {buildRoot : Option Path} {forbidden : Forbidden} {batch : Batch}
    {result : Except Fault FinalizeSummary} {earlier later : List ArtifactOutcome}
    {outcome : ArtifactOutcome} (hstaging : StagesIn pipeline world before batch.staging area)
    (htools : tools.Compiles pipeline.toolchain.clang pipeline.settings.build.targetTriple
      objectOf)
    (htried : Ends (pipeline.tryModules tools buildRoot forbidden) world (.ok batch) tried)
    (hend : Ends (pipeline.finalize tools buildRoot forbidden) world result after)
    (houtcomes : batch.summary.outcomes = earlier ++ outcome :: later)
    (hprocessed : outcome.status = .processed)
    (hlater : ∀ other ∈ later, other.name = outcome.name → other.status = .irMissing) :
    (∀ returned, result = .ok returned → returned = batch.summary) ∧
      ∃ m ir, batch.modules[earlier.length]? = some m ∧ m.ir? = some ir ∧
        (¬ before.disk.LeadsInto ir area → ¬ before.disk.LeadsInto m.path area →
          Owned objectOf batch.staging m.path ir before.disk after.disk outcome) := by
  obtain ⟨before', started, hstore, hstarted, hsound, hbatch⟩ := tryModules_spec htried
  obtain ⟨-, rfl⟩ := hstore.unique hstaging.made
  have hjudge : Ends (judge batch.staging batch.summary) tried result after := by
    rw [finalize_eq] at hend
    rcases ends_bind.1 hend with ⟨found, t, htry, hjudge⟩ | ⟨fault, htry, -⟩
    · obtain ⟨hfound, rfl⟩ := htried.unique htry
      obtain rfl := Except.ok.inj hfound
      exact hjudge
    · cases (htried.unique htry).1
  refine ⟨?_, ?_⟩
  · rintro returned rfl
    exact eq_of_judge hjudge
  rw [houtcomes] at hbatch
  obtain ⟨ms, m, ms', w₁, w₂, hmodules, hlength, hfirst, hstep, hlast⟩ := ends_mapM_split hbatch
  rw [hmodules] at hsound
  have hm : m.Sound := hsound m (by simp)
  have hsound₁ : ∀ m ∈ ms, m.Sound := fun m hm => hsound m (by simp [hm])
  have hsound₂ : ∀ m ∈ ms', m.Sound := fun m hm => hsound m (by simp [hm])
  -- the area stays one from the first step to the last
  have harea : started.disk.Area batch.staging area := hstarted ▸ hstaging.isArea
  have hrefiles₁ := restages_modules hsound₁ hstaging.proper htools.toEmits _ _ _ hfirst harea
  have harea₁ := harea.refiles hrefiles₁
  have hrefiles₂ := restages_finalizeModule hm hstaging.proper htools.toEmits _ _ _ hstep harea₁
  have harea₂ := harea₁.refiles hrefiles₂
  have hrefiles₃ := restages_modules hsound₂ hstaging.proper htools.toEmits _ _ _ hlast harea₂
  have harea₃ := harea₂.refiles hrefiles₃
  have hrefiles₄ := restages_judge batch.summary _ _ _ hjudge harea₃
  obtain ⟨ir, hir, howned⟩ :=
    owned_of_finalizeModule harea₁ hm hstaging.proper htools hstep hprocessed
  obtain ⟨hname, -, -⟩ := name_of_finalizeModule hstep
  refine ⟨m, ir, by simp [hmodules, ← hlength], hir, fun hout hmodule => ?_⟩
  rw [hstarted] at hout hmodule ⊢
  have hout₁ : ¬ w₁.disk.LeadsInto ir area := fun h => hout (harea.leadsInto hrefiles₁ h)
  have hmodule₁ : ¬ w₁.disk.LeadsInto m.path area :=
    fun h => hmodule (harea.leadsInto hrefiles₁ h)
  have hout₂ : ¬ w₂.disk.LeadsInto ir area := fun h => hout₁ (harea₁.leadsInto hrefiles₂ h)
  have hmodule₂ : ¬ w₂.disk.LeadsInto m.path area :=
    fun h => hmodule₁ (harea₁.leadsInto hrefiles₂ h)
  have hout₃ : ¬ tried.disk.LeadsInto ir area := fun h => hout₂ (harea₂.leadsInto hrefiles₃ h)
  have hmodule₃ : ¬ tried.disk.LeadsInto m.path area :=
    fun h => hmodule₂ (harea₂.leadsInto hrefiles₃ h)
  have howned₁ := (howned hout₁ hmodule₁).reread
    (hrefiles₁.content?_outside hout) (hrefiles₁.content?_outside hmodule)
  have hnames := not_triedNames hm hsound₂ hname hlast hlater
  have howned₂ := howned₁.refiles hm harea₂ hrefiles₃ hnames hout₂ hmodule₂
  refine howned₂.refiles hm harea₃ hrefiles₄ ?_ hout₃ hmodule₃
  rintro name hstaged rfl
  exact hm.not_staged_document hstaged

/-! ## Modules that share files

A small build shows what the main result rests on.  Two of its modules have the stem `b`.  If it is
linked, the entry `a.ll` of the staging area leads to the entry `b.ll`, and so does the IR of the
module `c`.  Then no outcome but the last owns what is staged for it. -/

section Sharing

/-- A pipeline with the workspace `/w`. -/
def samplePipeline : Pipeline where
  settings := { build := { marker := "M" } }
  toolchain := ⟨"17", true, "clang-17", "llvm-profdata-17", "llvm-cov-17"⟩
  workspace := ⟨some (.ofText "/w")⟩

/-- Its staging area, which the build output is in as well. -/
def sampleStaging : Path :=
  .ofText "/w/staging"

/-- The directory of the staging area. -/
def sampleArea : Location :=
  ["staging", "w"]

/-- A module of the build; its IR is beside it. -/
def built (base : String) : Module :=
  ⟨.ofText ("/w/staging/deps/" ++ base ++ ".wasm"),
    .found (.ofText ("/w/staging/deps/" ++ base ++ ".ll"))⟩

/-- The modules of the build, in order.  The IR of `c` is a link. -/
def builtModules (linked : Bool) : List Module :=
  let last := built "c"
  [built "a", built "b",
    if linked then last else { last with pairing := .missing (.ofText "/w/staging/deps/c.ll") },
    built "deps/b"]

/-- IR that defines one function. -/
def functionIr (function : String) : String :=
  "define " ++ function ++ "\x7b\n\x7d\n"

/-- The world of the build. -/
def buildWorld (linked : Bool) : World where
  disk :=
    let file (location : Location) (text : String) : Location × Node :=
      (location, .file (octetsOf text) false)
    let link (location : Location) (target : String) : List (Location × Node) :=
      if linked then [(location, .link (.ofText target))] else []
    let deps := "deps" :: sampleArea
    let entries := [(["w"], .directory), (sampleArea, .directory),
      file ("b.ll" :: sampleArea) (functionIr "old")] ++ link ("a.ll" :: sampleArea) "b.ll" ++
      [(deps, .directory), file ("a.ll" :: deps) (functionIr "f"), file ("a.wasm" :: deps) "M",
      file ("b.ll" :: deps) (functionIr "g"), file ("b.wasm" :: deps) "M"] ++
      link ("c.ll" :: deps) "../b.ll" ++ [file ("c.wasm" :: deps) "M",
      ("deps" :: deps, .directory), file ("b.ll" :: "deps" :: deps) (functionIr "h"),
      file ("b.wasm" :: "deps" :: deps) "M"]
    { entries, here := [] }
  clock := ⟨2024, 5, 1, 0, 0, 0, 0⟩

/-- The candidates are listed in the order of their paths. -/
lemma ends_candidates_build (linked : Bool) :
    Ends (candidates sampleStaging) (buildWorld linked).disk
      (.ok ((builtModules linked).map Module.path)) (buildWorld linked).disk := by
  have hplaces : (buildWorld linked).disk.directoriesFrom sampleArea =
      [sampleArea, "deps" :: sampleArea, "deps" :: "deps" :: sampleArea] := by
    cases linked <;> decide +kernel
  have hupper : Ends (modulesIn (pathOf ("deps" :: sampleArea))) (buildWorld linked).disk
      (.ok [(built "a").path, (built "b").path, (built "c").path]) (buildWorld linked).disk := by
    refine Ends.bind (a := true) ?_ (ends_filesWithSuffix ("deps" :: sampleArea) ?_ ?_ ?_ ?_)
    all_goals cases linked <;> decide +kernel
  have hlower : Ends (modulesIn (pathOf ("deps" :: "deps" :: sampleArea)))
      (buildWorld linked).disk (.ok [(built "deps/b").path]) (buildWorld linked).disk := by
    refine Ends.bind (a := true) ?_
      (ends_filesWithSuffix ("deps" :: "deps" :: sampleArea) ?_ ?_ ?_ ?_)
    all_goals cases linked <;> decide +kernel
  have hlast : Ends (candidatesIn ["deps" :: "deps" :: sampleArea]) (buildWorld linked).disk
      (.ok []) (buildWorld linked).disk := by
    cases linked <;> decide +kernel
  refine ends_candidates_ok.2 ⟨sampleArea, (builtModules linked).map Module.path, ?_, ?_, ?_⟩
  · cases linked <;> decide +kernel
  · rw [hplaces]
    refine hupper.bind (Ends.bind (hlower.bind (hlast.bind (ends_pure.2 ⟨rfl, rfl⟩))) ?_)
    cases linked <;> exact ends_pure.2 ⟨rfl, rfl⟩
  · rw [Path.sort, List.mergeSort_of_pairwise]
    cases linked <;> decide +kernel

lemma behindLinks_build (linked : Bool) :
    (buildWorld linked).disk.behindLinks (buildWorld linked).disk.linkCount
      ((buildWorld linked).disk.start sampleStaging.anchor) sampleStaging.names =
        some sampleArea := by
  have houter : (buildWorld linked).disk.node? ["w"] = some .directory := by
    cases linked <;> decide +kernel
  have hinner : (buildWorld linked).disk.node? ["staging", "w"] = some .directory := by
    cases linked <;> decide +kernel
  have hstart : (buildWorld linked).disk.start sampleStaging.anchor = [] := by
    cases linked <;> decide +kernel
  have hnames : sampleStaging.names = ["w", "staging"] := by decide +kernel
  rw [hstart, hnames]
  simp [behindLinks, houter, hinner, sampleArea]

lemma ends_discover_build (linked : Bool) :
    Ends (discover sampleStaging (octetsOf "M")) (buildWorld linked) (.ok (builtModules linked))
      (buildWorld linked) := by
  refine ends_discover_ok.2 ⟨⟨by decide +kernel, sampleArea, ?_⟩, sampleStaging, _,
    ends_resolve_ok.2 ⟨⟨by decide +kernel, sampleArea, ?_, by decide +kernel⟩, rfl⟩,
    ends_candidates_build linked, ?_⟩
  · cases linked <;> decide +kernel
  · exact behindLinks_build linked
  · cases linked <;> decide +kernel

/-- The world when the modules were found. -/
def foundWorld (linked : Bool) : World :=
  ((note .info ("Found " ++ toString (builtModules linked).length ++
    " instrumented module(s) under " ++ sampleStaging.text)).run.run (buildWorld linked)).2

/-- The outcomes of the modules. -/
def builtOutcomes (linked : Bool) : List ArtifactOutcome :=
  (builtModules linked).map fun m =>
    if m.ir? = none then missingOutcome m else processedOutcome sampleStaging m 1

/-- What was tried. -/
def builtBatch (linked : Bool) : Batch :=
  ⟨sampleStaging, builtModules linked,
    ⟨sampleStaging.text, sampleStaging.text, builtOutcomes linked⟩⟩

/-- The world when every module was tried. -/
def triedWorld (linked : Bool) : World :=
  (((builtModules linked).mapM
    (samplePipeline.finalizeModule Tool.copier sampleStaging)).run.run (foundWorld linked)).2

lemma ends_store_build (linked : Bool) :
    Ends (samplePipeline.workspace.store .staging) (buildWorld linked) (.ok sampleStaging)
      (buildWorld linked) := by
  cases linked <;> decide +kernel

lemma ends_tryModules_build (linked : Bool) :
    Ends (samplePipeline.tryModules Tool.copier none fun _ => false) (buildWorld linked)
      (.ok (builtBatch linked)) (triedWorld linked) := by
  have hbatch : Ends ((builtModules linked).mapM
      (samplePipeline.finalizeModule Tool.copier sampleStaging)) (foundWorld linked)
      (.ok (builtOutcomes linked)) (triedWorld linked) := by
    refine Prod.ext ?_ rfl
    cases linked <;> decide +kernel
  exact ends_tryModules (ends_store_build linked) (ends_pure.2 ⟨rfl, rfl⟩)
    (ends_discover_build linked) rfl hbatch

/-- The path of a module's IR. -/
def builtIr (base : String) : Path :=
  .ofText ("/w/staging/deps/" ++ base ++ ".ll")

/-- In a build without links the module `a` owns what is staged for it, whatever becomes of the
modules after it. -/
theorem finalize_owned_build : ∃ result after,
    Ends (samplePipeline.finalize Tool.copier none fun _ => false) (buildWorld false) result after ∧
      Owned id sampleStaging (built "a").path (builtIr "a") (buildWorld false).disk after.disk
        (processedOutcome sampleStaging (built "a") 1) := by
  obtain ⟨result, after, hjudge⟩ :=
    exists_ends (judge sampleStaging (builtBatch false).summary) (triedWorld false)
  have hend : Ends (samplePipeline.finalize Tool.copier none fun _ => false) (buildWorld false)
      result after := by
    rw [finalize_eq]
    exact (ends_tryModules_build false).bind hjudge
  have hstaging : StagesIn samplePipeline (buildWorld false) (buildWorld false) sampleStaging
      sampleArea :=
    ⟨ends_store_build false, by decide +kernel, by decide +kernel,
      fun name => noLink_of_linkCount (by decide +kernel) _⟩
  have houtcomes : (builtBatch false).summary.outcomes =
      [] ++ processedOutcome sampleStaging (built "a") 1 :: (builtOutcomes false).tail := rfl
  obtain ⟨-, m, ir, hm, hir, howned⟩ := finalize_owned hstaging (Tool.compiles_copier _ _)
    (ends_tryModules_build false) hend houtcomes rfl (by decide +kernel)
  obtain rfl := Option.some.inj hm
  obtain rfl := Option.some.inj hir
  have hirFound : (buildWorld false).disk.find (builtIr "a") true =
      .ok ("a.ll" :: "deps" :: sampleArea) := by decide +kernel
  have hmoduleFound : (buildWorld false).disk.find (built "a").path true =
      .ok ("a.wasm" :: "deps" :: sampleArea) := by decide +kernel
  refine ⟨result, after, hend, howned ?_ ?_⟩
  · rintro ⟨name, hfind⟩
    exact absurd (Except.ok.inj (hirFound.symm.trans hfind)) (by simp [sampleArea])
  · rintro ⟨name, hfind⟩
    exact absurd (Except.ok.inj (hmoduleFound.symm.trans hfind)) (by simp [sampleArea])

/-- The world after the linked build was judged. -/
def judgedWorld : World :=
  ((judge sampleStaging (builtBatch true).summary).run.run (triedWorld true)).2

lemma ends_judge_build : Ends (judge sampleStaging (builtBatch true).summary) (triedWorld true)
    (.ok (builtBatch true).summary) judgedWorld :=
  ends_of_result (by decide +kernel)

lemma content?_judgedWorld : ∀ base ∈ ["a", "b", "c"],
    ∀ read ∈ [(buildWorld true).disk, judgedWorld.disk],
      judgedWorld.disk.content? (sampleStaging.child ((built base).path.stem ++ irSuffix)) ≠
        (read.content? (builtIr base)).bind fun data =>
          (Ir.neutralizeOctets data).toOption.map Prod.fst := by
  decide +kernel

/-- **Shared files belong to the module that was staged last.**  The finalization of the linked
build succeeds, and yet three of its outcomes do not own what is staged for them, whether their IR
is read before the finalization or after it: that of `a`, which was staged through a link, that of
`b`, the stem of a later module, and that of `c`, whose IR was staged over. -/
theorem not_finalize_owned_of_shared :
    Tool.copier.Compiles samplePipeline.toolchain.clang
      samplePipeline.settings.build.targetTriple id ∧ ∃ after,
    Ends (samplePipeline.finalize Tool.copier none fun _ => false) (buildWorld true)
      (.ok (builtBatch true).summary) after ∧
    ∀ base ∈ ["a", "b", "c"],
      processedOutcome sampleStaging (built base) 1 ∈ (builtBatch true).summary.outcomes ∧
      ∀ read ∈ [(buildWorld true).disk, after.disk],
        ¬ Owned id sampleStaging (built base).path (builtIr base) read after.disk
          (processedOutcome sampleStaging (built base) 1) := by
  refine ⟨Tool.compiles_copier _ _, judgedWorld, ?_, fun base hbase => ⟨?_, ?_⟩⟩
  · rw [finalize_eq]
    exact (ends_tryModules_build true).bind ends_judge_build
  · revert base
    decide +kernel
  · intro read hread howned
    exact content?_judgedWorld base hbase read hread howned.content?_staged

end Sharing

end WasmCoverage.Pipeline
