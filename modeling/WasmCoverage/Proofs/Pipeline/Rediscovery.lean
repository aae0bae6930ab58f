import WasmCoverage.Proofs.Discovery.Again
import WasmCoverage.Proofs.Pipeline.Phases
import WasmCoverage.Proofs.Tool.Neat

/-!
# Finalizing again

A finalization writes into the staging area, which may lie in the tree that it searches, or be that
tree.  It does not feed on what it wrote: the files that it stages are entries of the staging area,
and modules are entries of module directories, so whatever becomes of them, no module and no IR has
changed, and a search of the same tree finds the same modules (**`finalize_spares_build`**).

This rests on the staging area being a directory without links.  Through a link in it a module of
the build can be overwritten (`not_finalize_spares_linked`).
-/

namespace WasmCoverage.Pipeline

open WasmCoverage.Disk WasmCoverage.Text WasmCoverage.Workspace

variable {pipeline : Pipeline} {tools : Toolbox} {staging : Path} {area root base : Location}
  {buildRoot : Option Path} {forbidden : Forbidden} {path : Path} {modules : List Module}
  {w w' before searched found : World} {result : Except Fault FinalizeSummary}

/-! ## What is staged -/

/-- The names that a finalization of the modules may write in the staging area. -/
def StagedNames (modules : List Module) (name : String) : Prop :=
  TriedNames modules name ∨ name = finalizeDocument

/-- What happens after the modules were found. -/
lemma finalize_of_findModules {search : Search}
    (hfound : Ends (pipeline.findModules buildRoot forbidden) w (.ok search) found)
    (hend : Ends (pipeline.finalize tools buildRoot forbidden) w result w') :
    Ends (search.modules.mapM (pipeline.finalizeModule tools search.staging) >>= fun outcomes =>
      judge search.staging ⟨search.root.text, search.staging.text, outcomes⟩) found result w' := by
  simp only [finalize_eq_batch, batch, bind_assoc, pure_bind] at hend
  rcases ends_bind.1 hend with ⟨other, t, hother, hrest⟩ | ⟨fault, hother, -⟩
  · obtain ⟨heq, rfl⟩ := hother.unique hfound
    obtain rfl := Except.ok.inj heq
    exact hrest
  · cases (hother.unique hfound).1

/-- A finalization that ends with a summary or a verdict has found its modules. -/
lemma exists_findModules (hend : Ends (pipeline.finalize tools buildRoot forbidden) w result w')
    (hresult : ∀ fault, result = .error fault → ∃ verdict, fault = .phase verdict) :
    ∃ search found, Ends (pipeline.findModules buildRoot forbidden) w (.ok search) found := by
  simp only [finalize_eq_batch, batch, bind_assoc, pure_bind] at hend
  rcases ends_bind.1 hend with ⟨search, found, hfound, -⟩ | ⟨fault, hfound, rfl⟩
  · exact ⟨search, found, hfound⟩
  · obtain ⟨verdict, rfl⟩ := hresult fault rfl
    exact absurd rfl (unjudged_findModules _ _ _ _ _ hfound verdict)

/-- The search for the modules, after the staging directory was made. -/
lemma discover_of_findModules {search : Search}
    (hmade : Ends (pipeline.workspace.store .staging) w (.ok staging) before)
    (hbuild : Ends (searchRoot staging buildRoot) before (.ok path) searched)
    (hfound : Ends (pipeline.findModules buildRoot forbidden) w (.ok search) found) :
    searched.disk = before.disk ∧ found.disk = before.disk ∧
      ∃ modules t, search = ⟨staging, path, modules⟩ ∧
        Ends (discover path pipeline.settings.build.markerOctets forbidden) searched (.ok modules)
          t := by
  obtain ⟨store, t₁, hstore, hrest⟩ := ends_bind_ok.1 hfound
  obtain ⟨heq, rfl⟩ := hstore.unique hmade
  obtain rfl := Except.ok.inj heq
  obtain ⟨root, t₂, hroot, hrest⟩ := ends_bind_ok.1 hrest
  obtain ⟨heq, rfl⟩ := hroot.unique hbuild
  obtain rfl := Except.ok.inj heq
  obtain ⟨modules, t₃, hdiscover, hrest⟩ := ends_bind_ok.1 hrest
  obtain ⟨heq, rfl⟩ := ends_pure.1 (ends_note_bind.1 hrest)
  have hsearched : t₁.disk = t₂.disk := respects_searchRoot _ _ _ _ _ hbuild
  have hfound : t₂.disk = t₃.disk := respects_discover _ _ _ _ hdiscover
  exact ⟨hsearched.symm, by rw [disk_noted, ← hfound, hsearched], modules, t₃, Except.ok.inj heq,
    hdiscover⟩

section Writing

variable (hsound : ∀ m ∈ modules, m.Sound)

include hsound

/-- In an area, trying the modules and judging the batch writes files under their names, and the
document. -/
lemma restages_finalize (hstaging : staging.Proper)
    (htools : tools.Emits pipeline.toolchain.clang pipeline.settings.build.targetTriple) :
    Respects (OnDisk (Restages staging area (StagedNames modules)))
      (modules.mapM (pipeline.finalizeModule tools staging) >>= fun outcomes =>
        judge staging ⟨path.text, staging.text, outcomes⟩) :=
  ((restages_modules hsound hstaging htools).mono fun h => Restages.mono (fun _ => Or.inl) h).bind
    fun _ => (restages_judge _).mono fun h => Restages.mono (fun _ => Or.inr) h

/-- It leaves a disk that lists every place once. -/
lemma listed_finalize (hneat : tools.Neat) :
    Respects (OnDisk Listed) (modules.mapM (pipeline.finalizeModule tools staging) >>=
      fun outcomes => judge staging ⟨path.text, staging.text, outcomes⟩) := by
  have hwrite (path : Path) (data : Octets) : Respects Listed (write path data) :=
    (neatly_write path data).mono Neatly.listed
  refine (Respects.mapM fun m hm => respects_finalizeModule (hsound m hm) fun _ => ?_).bind
    fun _ => respects_judge (fun data => hwrite _ data) _
  exact
    { make := respects_makeDirectoriesFrom (fun path =>
        (neatly_makeDirectory path).mono Neatly.listed) _ _
      write := fun name _ data => hwrite _ data
      compile := fun calls disk => hneat.distinct _ _ _ }

end Writing

/-- Modules are staged under names of entries. -/
lemma isName_of_stagedNames {name : String} (hsound : ∀ m ∈ modules, m.Sound ∧ m.Clean)
    (h : StagedNames modules name) : Path.IsName name ∧ '\x00' ∉ name.toList := by
  have hsuffix {stem suffix : String} (hstem : '\x00' ∉ stem.toList)
      (hnul : '\x00' ∉ suffix.toList) : '\x00' ∉ (stem ++ suffix).toList := by
    rw [String.toList_append, List.mem_append, not_or]
    exact ⟨hstem, hnul⟩
  rcases h with ⟨m, hmem, -, hstaged⟩ | rfl
  · obtain ⟨hm, hclean⟩ := hsound m hmem
    have hstem : '\x00' ∉ m.name.toList := not_mem_stem hclean.path
    refine ⟨hm.isName_staged hstaged, ?_⟩
    rcases hstaged with rfl | rfl | rfl
    · exact hsuffix hstem (by decide)
    · exact hsuffix hstem (by decide)
    · exact not_mem_name hclean.path
  · decide

/-- The staging area is no module directory. -/
lemma not_staged_module {name : String} {directory : Location} {names : String → Prop} :
    ¬ ∃ other, names other ∧
      name :: moduleDirectory :: directory = other :: Store.staging.directory :: root := by
  rintro ⟨other, -, heq⟩
  have hdeps := (List.cons.inj (List.cons.inj heq).2).1
  revert hdeps
  decide

/-- A tree that can be searched still can be, after files were staged in a directory. -/
lemma searchable_of_staged {disk disk' : Disk} (h : disk.Searchable base)
    (hrefiles : RefilesIn area (StagedNames modules) disk disk') (hlisted : disk'.Distinct)
    (hstands : disk.node? area = some .directory)
    (hsound : ∀ m ∈ modules, m.Sound ∧ m.Clean) : disk'.Searchable base := by
  have harea : ∀ name directory, (∃ other, StagedNames modules other ∧
      name :: directory = other :: area) → disk.node? directory = some .directory := by
    rintro name directory ⟨other, -, heq⟩
    exact (List.cons.inj heq).2 ▸ hstands
  refine ⟨h.tree.refiles hrefiles harea, hlisted, hrefiles.keeps.directory _ h.stands,
    fun place hbelow hthere => ?_, fun place hbelow => hrefiles.noLink (h.noLink place hbelow)⟩
  rcases hrefiles.node place with heq | ⟨⟨name, hstaged, rfl⟩, hplain, -⟩
  · exact h.names place hbelow (heq ▸ hthere)
  · refine List.forall_mem_cons.2 ⟨isName_of_stagedNames hsound hstaged, ?_⟩
    refine h.names area ?_ (by simp [hstands])
    rcases List.suffix_cons_iff.1 hbelow with heq | hsuffix
    · exact absurd (heq ▸ h.stands) hplain.ne_directory
    · exact hsuffix

/-! ## The build is spared -/

/-- A finalization changed nothing but what it may: it made the staging directory, and wrote files
in it under the names of the modules, and the document.  The modules and their IR are as they were.
A search of the same tree finds them again, and so does a finalization whose build root is still
that tree. -/
structure Spared (pipeline : Pipeline) (buildRoot : Option Path) (forbidden : Forbidden)
    (root : Location) (search : Search) (before after : Disk) : Prop where
  node : ∀ location, after.node? location = before.node? location ∨
    (location = Store.staging.directory :: root ∧ before.node? location = none ∧
      after.node? location = some .directory) ∨
    ∃ name, location = name :: Store.staging.directory :: root ∧
      StagedNames search.modules name ∧ Plain (before.node? location) ∧
      Plain (after.node? location)
  content : ∀ m ∈ search.modules, ∀ file, file = m.path ∨ m.ir? = some file →
    ∃ data, before.content? file = some data ∧ after.content? file = some data
  again : ∀ u : World, u.disk = after → ∃ u', Ends (discover search.root
    pipeline.settings.build.markerOctets forbidden) u (.ok search.modules) u'
  repeated : ∀ u t : World, u.disk = after →
    Ends (searchRoot search.staging buildRoot) u (.ok search.root) t →
    ∃ u', Ends (pipeline.findModules buildRoot forbidden) u (.ok search) u'

/-- **A finalization spares the build**, whether it ends with a summary or with a verdict. -/
theorem finalize_spares_build (hrooted : pipeline.workspace.Rooted root w.disk)
    (hstaging : StagesIn pipeline w before staging (Store.staging.directory :: root))
    (hbuild : Ends (searchRoot staging buildRoot) before (.ok path) searched)
    (hpath : before.disk.find path true = .ok base) (hsearchable : before.disk.Searchable base)
    (htools : tools.Emits pipeline.toolchain.clang pipeline.settings.build.targetTriple)
    (hneat : tools.Neat) (hend : Ends (pipeline.finalize tools buildRoot forbidden) w result w')
    (hresult : ∀ fault, result = .error fault → ∃ verdict, fault = .phase verdict) :
    ∃ modules found, Ends (pipeline.findModules buildRoot forbidden) w
        (.ok ⟨staging, path, modules⟩) found ∧
      Spared pipeline buildRoot forbidden root ⟨staging, path, modules⟩ w.disk w'.disk := by
  obtain ⟨search, found, hfound⟩ := exists_findModules hend hresult
  obtain ⟨hsearched, hdisk, modules, t, rfl, hdiscover⟩ :=
    discover_of_findModules hstaging.made hbuild hfound
  have hsound := (findModules_spec hfound).2
  have hrest := finalize_of_findModules hfound hend
  have harea : before.disk.Area staging (Store.staging.directory :: root) := hstaging.isArea
  have hrefiles : RefilesIn (Store.staging.directory :: root) (StagedNames modules)
      before.disk w'.disk := by
    rw [← hdisk] at harea ⊢
    exact restages_finalize (fun m hm => (hsound m hm).1) hstaging.proper htools _ _ _ hrest harea
  have hlisted : w'.disk.Distinct := by
    have hbefore : found.disk.Distinct := hdisk.symm ▸ hsearchable.distinct
    exact listed_finalize (fun m hm => (hsound m hm).1) hneat _ _ _ hrest hbefore
  have hafter : w'.disk.Searchable base :=
    searchable_of_staged hsearchable hrefiles hlisted harea.stands hsound
  have hclean : hasNul path = false := (ends_discover_ok.1 hdiscover).1.1
  obtain ⟨hanswer, heq⟩ := (discover_ok_iff (hsearched.symm ▸ hsearchable) hclean
    (hsearched.symm ▸ hpath)).1 ⟨t, hdiscover⟩
  rw [hsearched] at hanswer heq
  -- asking for the staging area made its directory, if anything
  obtain ⟨-, hmade⟩ := disk_of_store hrooted hstaging.made
  have hnode (location : Location) : before.disk.node? location = w.disk.node? location ∨
      (location = Store.staging.directory :: root ∧ w.disk.node? location = none ∧
        before.disk.node? location = some .directory) := by
    rw [hmade]
    dsimp only
    split
    · next hnone =>
      rw [node?_put (List.cons_ne_nil _ _)]
      split
      · next hplace => exact Or.inr ⟨hplace, hplace ▸ hnone, rfl⟩
      · exact Or.inl rfl
    · exact Or.inl rfl
  have hagain (u : World) (hu : u.disk = w'.disk) : ∃ u', Ends (discover path
      pipeline.settings.build.markerOctets forbidden) u (.ok modules) u' :=
    discover_again hsearchable hafter hrefiles (fun name directory => not_staged_module)
      hclean hpath hsearched hu hdiscover
  refine ⟨modules, found, hfound, fun location => ?_, fun m hm file hfile => ?_, hagain,
    fun u t hu hroot => ?_⟩
  · rcases hrefiles.node location with hsame | ⟨⟨name, hname, rfl⟩, hplain, hplain'⟩
    · rcases hnode location with hold | ⟨hplace, hnone, hdir⟩
      · exact Or.inl (hsame.trans hold)
      · exact Or.inr (Or.inl ⟨hplace, hnone, hsame.trans hdir⟩)
    · have hold := (hnode (name :: Store.staging.directory :: root)).resolve_right fun hstore =>
        (List.cons_ne_self _ _ (List.cons.inj hstore.1).2)
      exact Or.inr (Or.inr ⟨name, rfl, hname, hold ▸ hplain, hplain'⟩)
  · obtain ⟨name, directory, data, executable, rfl, hentry, hshort, hfile⟩ :=
      hanswer.file_of_module hsearchable (heq ▸ hm) hfile
    have hcontent {disk : Disk} (htree : disk.IsTree)
        (hthere : disk.node? (name :: moduleDirectory :: directory) =
          some (.file data executable)) :
        disk.content? (pathOf (name :: moduleDirectory :: directory)) = some data := by
      have hstands := htree.stands (htree _ _ (by rw [hthere]; simp))
      exact content?_eq_some.2 ⟨_, executable, (find_at ⟨hstands, hentry.names, hentry.clean,
        fun target => by simp [hthere]⟩ true).trans (if_neg hshort), hthere⟩
    refine ⟨data, hcontent hrooted.tree ?_, hcontent hafter.tree ?_⟩
    · rcases hnode (name :: moduleDirectory :: directory) with hold | ⟨-, -, hdir⟩
      · exact hold.symm.trans hfile
      · cases hdir.symm.trans hfile
    · rw [hrefiles.node?_eq not_staged_module, hfile]
  · have hstore : Ends (pipeline.workspace.store .staging) u (.ok staging) u :=
      store_again hstaging.made (hu ▸ hrefiles.keeps)
    have ht : u.disk = t.disk := respects_searchRoot _ _ _ _ _ hroot
    obtain ⟨u', hmodules⟩ := hagain t (ht.symm.trans hu)
    exact ⟨_, hstore.bind (hroot.bind (hmodules.bind (ends_note_bind.2 (ends_pure.2 ⟨rfl, rfl⟩))))⟩

/-! ## A build in the staging area, and one that is linked into it -/

section Samples

/-- The build in the staging area has its modules below the area itself. -/
theorem finalize_spares_build_staged : ∃ after modules,
    Ends (samplePipeline.finalize Tool.copier none fun _ => false) (buildWorld false)
      (.ok (builtBatch false).summary) after ∧
    Spared samplePipeline none (fun _ => false) ["w"] ⟨sampleStaging, sampleStaging, modules⟩
      (buildWorld false).disk after.disk := by
  have hsearchable : (buildWorld false).disk.Searchable sampleArea :=
    searchable_of_entries (by decide +kernel) (by decide +kernel)
      (fun place _ => noLink_of_linkCount (by decide +kernel) place) (by decide +kernel)
  have hrooted : samplePipeline.workspace.Rooted ["w"] (buildWorld false).disk :=
    ⟨rfl, by decide +kernel, hsearchable.tree, by decide +kernel⟩
  have hstaging : StagesIn samplePipeline (buildWorld false) (buildWorld false) sampleStaging
      (Store.staging.directory :: ["w"]) :=
    ⟨ends_store_build false, by decide +kernel, by decide +kernel,
      fun name => noLink_of_linkCount (by decide +kernel) _⟩
  obtain ⟨after, hjudge⟩ : ∃ after, Ends (judge sampleStaging (builtBatch false).summary)
      (triedWorld false) (.ok (builtBatch false).summary) after :=
    ⟨_, ends_of_result (by decide +kernel)⟩
  have hend : Ends (samplePipeline.finalize Tool.copier none fun _ => false) (buildWorld false)
      (.ok (builtBatch false).summary) after := by
    rw [finalize_eq]
    exact (ends_tryModules_build false).bind hjudge
  have hbuild : Ends (searchRoot sampleStaging none) (buildWorld false) (.ok sampleStaging)
      (buildWorld false) := ends_pure.2 ⟨rfl, rfl⟩
  obtain ⟨modules, found, -, hspared⟩ := finalize_spares_build hrooted hstaging hbuild
    (by decide +kernel) hsearchable (Tool.compiles_copier _ _).toEmits Tool.neat_copier hend
    (fun fault hfault => by cases hfault)
  exact ⟨after, modules, hend, hspared⟩

/-- A module of a build elsewhere; its IR is beside it. -/
def linkedModule : Module :=
  ⟨.ofText "/b/deps/m.wasm", .found (.ofText "/b/deps/m.ll")⟩

/-- The world of the build.  The entry of the staging area that the IR is to be staged under is a
link to the IR. -/
def linkedWorld : World where
  disk :=
    { entries := [(["w"], .directory), (sampleArea, .directory),
        ("m.ll" :: sampleArea, .link (.ofText "/b/deps/m.ll")), (["b"], .directory),
        (["deps", "b"], .directory),
        (["m.ll", "deps", "b"], .file (octetsOf (functionIr "f")) false),
        (["m.wasm", "deps", "b"], .file (octetsOf "M") false)]
      here := [] }
  clock := ⟨2024, 5, 1, 0, 0, 0, 0⟩

/-- The build itself has no links. -/
lemma searchable_linkedWorld : linkedWorld.disk.Searchable ["b"] := by
  have hdistinct : linkedWorld.disk.Distinct := by decide +kernel
  refine searchable_of_entries (by decide +kernel) hdistinct (fun place hbelow target hlink => ?_)
    (by decide +kernel)
  have hplain : ∀ entry ∈ linkedWorld.disk.entries, ["b"] <:+ entry.1 →
      entry.2 ∈ [.directory, .file (octetsOf (functionIr "f")) false,
        .file (octetsOf "M") false] := by
    decide +kernel
  have hne : place ≠ [] := by
    rintro rfl
    cases hlink
  simpa using hplain _ ((mem_entries hdistinct hne).2 hlink) hbelow

/-- It has one module. -/
lemma moduleAt_linkedWorld (place : Location) (data : Octets) :
    linkedWorld.disk.ModuleAt ["b"] place data ↔
      place = ["m.wasm", "deps", "b"] ∧ data = octetsOf "M" := by
  constructor
  · rintro ⟨name, directory, executable, rfl, -, hsuffix, hnode⟩
    have hfiles : ∀ entry ∈ linkedWorld.disk.entries, ∀ name ∈ entry.1.head?,
        hasSuffix moduleSuffix name = true →
          entry = (["m.wasm", "deps", "b"], .file (octetsOf "M") false) := by
      decide +kernel
    have hentry := hfiles _ ((mem_entries searchable_linkedWorld.distinct (by simp)).2 hnode) name
      rfl hsuffix
    obtain ⟨hplace, hfile⟩ := Prod.mk.inj hentry
    exact ⟨hplace, (Node.file.inj hfile).1⟩
  · rintro ⟨rfl, rfl⟩
    exact ⟨"m.wasm", ["b"], false, rfl, List.suffix_rfl, by decide +kernel, by decide +kernel⟩

lemma ends_discover_linkedWorld :
    Ends (discover (pathOf ["b"]) (octetsOf "M")) linkedWorld (.ok [linkedModule]) linkedWorld := by
  have hnameable : linkedWorld.disk.Nameable ["b"] :=
    nameable_of_entries searchable_linkedWorld.distinct (by decide +kernel) (by decide)
      (by decide +kernel)
  obtain ⟨hclean, hfind⟩ := searchable_linkedWorld.find_root hnameable.base
  obtain ⟨modules, refused, hends, hsorted, hmodules, -, hrefused⟩ :=
    @discover_exact linkedWorld ["b"] (pathOf ["b"]) (fun _ => false) (octetsOf "M") hclean hfind
      searchable_linkedWorld (by decide +kernel) hnameable fun place data hplace _ _ => by
        obtain ⟨rfl, -⟩ := (moduleAt_linkedWorld place data).1 hplace
        decide +kernel
  have hone (m : Module) : m ∈ modules ↔ m = linkedModule := by
    rw [hmodules]
    constructor
    · rintro ⟨place, data, hplace, -, -, rfl⟩
      obtain ⟨rfl, -⟩ := (moduleAt_linkedWorld place data).1 hplace
      decide +kernel
    · rintro rfl
      exact ⟨_, _, (moduleAt_linkedWorld _ _).2 ⟨rfl, rfl⟩, rfl, List.infix_rfl, by decide +kernel⟩
  have hnodup : modules.Nodup := hsorted.imp fun hlt heq => absurd (heq ▸ hlt) (lt_irrefl _)
  obtain rfl : modules = [linkedModule] := by
    rw [← List.perm_singleton, List.perm_ext_iff_of_nodup hnodup (List.nodup_singleton _)]
    simpa only [List.mem_singleton] using hone
  obtain rfl : refused = [] := by
    refine List.eq_nil_iff_forall_not_mem.2 fun other hother => ?_
    obtain ⟨-, -, -, hfalse, -⟩ := (hrefused other).1 hother
    exact Bool.false_ne_true hfalse
  simpa only [List.map_nil, List.append_nil] using hends

/-- What was tried there. -/
def linkedBatch : Batch :=
  ⟨sampleStaging, [linkedModule],
    ⟨"/b", sampleStaging.text, [processedOutcome sampleStaging linkedModule 1]⟩⟩

/-- The world when its module was found. -/
def linkedFound : World :=
  ((note .info "Found 1 instrumented module(s) under /b").run.run linkedWorld).2

/-- The world when its module was tried. -/
def linkedTried : World :=
  (([linkedModule].mapM
    (samplePipeline.finalizeModule Tool.copier sampleStaging)).run.run linkedFound).2

/-- The world when the batch was judged. -/
def linkedJudged : World :=
  ((judge sampleStaging linkedBatch.summary).run.run linkedTried).2

lemma ends_finalize_linkedWorld :
    Ends (samplePipeline.finalize Tool.copier (some (.ofText "/b")) fun _ => false) linkedWorld
      (.ok linkedBatch.summary) linkedJudged := by
  have hstore : Ends (samplePipeline.workspace.store .staging) linkedWorld (.ok sampleStaging)
      linkedWorld := by
    decide +kernel
  have hroot : Ends (searchRoot sampleStaging (some (.ofText "/b"))) linkedWorld
      (.ok (pathOf ["b"])) linkedWorld := by
    have hresolve : Ends (resolve (.ofText "/b")) linkedWorld.disk (.ok (pathOf ["b"]))
        linkedWorld.disk :=
      (searchable_linkedWorld.ends_resolve (by decide +kernel) (by decide +kernel)).2
    exact ends_onDisk_ok.2 ⟨_, hresolve, rfl⟩
  have hbatch : Ends ([linkedModule].mapM
      (samplePipeline.finalizeModule Tool.copier sampleStaging)) linkedFound
      (.ok linkedBatch.summary.outcomes) linkedTried :=
    ends_of_result (by decide +kernel)
  have hjudge : Ends (judge sampleStaging linkedBatch.summary) linkedTried
      (.ok linkedBatch.summary) linkedJudged :=
    ends_of_result (by decide +kernel)
  rw [finalize_eq]
  exact (ends_tryModules hstore hroot ends_discover_linkedWorld rfl hbatch).bind hjudge

/-- **Through a link in the staging area a finalization damages its input.**  The build has no
links, and the compiler writes nothing but its output; yet the finalization, which succeeds, writes
the neutralized IR of the module over the IR that it read. -/
theorem not_finalize_spares_linked :
    samplePipeline.workspace.Rooted ["w"] linkedWorld.disk ∧
    linkedWorld.disk.Searchable ["b"] ∧
    Tool.copier.Emits samplePipeline.toolchain.clang samplePipeline.settings.build.targetTriple ∧
    Ends (samplePipeline.finalize Tool.copier (some (.ofText "/b")) fun _ => false) linkedWorld
      (.ok linkedBatch.summary) linkedJudged ∧
    linkedBatch.modules = [linkedModule] ∧
    ∀ ir, linkedModule.ir? = some ir →
      linkedJudged.disk.content? ir ≠ linkedWorld.disk.content? ir := by
  have htree : linkedWorld.disk.IsTree := searchable_linkedWorld.tree
  refine ⟨⟨rfl, by decide +kernel, htree, by decide +kernel⟩, searchable_linkedWorld,
    (Tool.compiles_copier _ _).toEmits, ends_finalize_linkedWorld, rfl, ?_⟩
  rintro _ ⟨⟩
  decide +kernel

end Samples

end WasmCoverage.Pipeline
