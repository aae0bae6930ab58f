import WasmCoverage.Proofs.InstrumentedBuild.Course
import WasmCoverage.Proofs.Pipeline.Phases

/-!
# Modules of the last build

The staging area is cleared so that a finalization takes no module of an earlier build.  After it
was cleared, a search finds nothing there: every module that it finds was found before, and those
are gone (`Removes.instrumented_eq_nil`).  **So a module that is found after a build is of that
build** (`only_new_modules`): the build tool put the file there, or changed what was in it.

This needs the staging area to be a tree without links, before the build and after it.  A module
that may not be opened is neither removed nor found.
-/

namespace WasmCoverage.InstrumentedBuild

open WasmCoverage.Disk WasmCoverage.Workspace

variable {pipeline : Pipeline} {tools : Toolbox} {arguments : List String}
  {forbidden : Forbidden} {marker data : Text.Octets} {modules : List Module}
  {area root place : Location} {before after : Disk} {staging : Path} {w w' t : World}

/-! ## Searching after modules were removed -/

/-- What is there after modules were removed was there before. -/
lemma Removes.there (h : Removes modules before after) {node : Node}
    (hnode : after.node? place = some node) : before.node? place = some node := by
  rw [← hnode, h.kept place]
  intro module hmodule hpath
  rw [h.gone place ⟨module, hmodule, hpath⟩] at hnode
  cases hnode

section Found

variable (hsearchable : before.Searchable area)
  (hremoves : Removes (before.modulesFound area marker forbidden) before after)

include hremoves

lemma Removes.moduleAt (h : after.ModuleAt area place data) : before.ModuleAt area place data := by
  obtain ⟨name, directory, executable, rfl, hbelow, hsuffix, hnode⟩ := h
  exact ⟨name, directory, executable, rfl, hbelow, hsuffix, hremoves.there hnode⟩

include hsearchable

/-- What is not a file is not a module that was found. -/
lemma Removes.stays {node : Node} (hnode : before.node? place = some node)
    (hfile : ∀ data executable, node ≠ .file data executable) : after.node? place = some node := by
  rw [hremoves.kept place, hnode]
  intro module hmodule hpath
  obtain ⟨found, hfound, rfl⟩ := List.mem_map.1 hmodule
  obtain ⟨data, ⟨_, _, executable, rfl, -, -, hthere⟩, -⟩ := hsearchable.mem_instrumented.1 hfound
  obtain rfl := pathOf_inj hpath
  exact hfile data executable (Option.some.inj (hnode.symm.trans hthere))

lemma Removes.searchable : after.Searchable area where
  tree := hremoves.tree
  distinct := hremoves.distinct
  stands := hremoves.stays hsearchable hsearchable.stands (by simp)
  names place hbelow hthere := by
    obtain ⟨node, hnode⟩ := Option.ne_none_iff_exists'.1 hthere
    exact hsearchable.names place hbelow (by simp [hremoves.there hnode])
  noLink place hbelow target hlink :=
    hsearchable.noLink place hbelow target (hremoves.there hlink)

/-- **Nothing is left to be found** after all modules that were found are removed. -/
theorem Removes.instrumented_eq_nil :
    after.instrumented forbidden marker (after.modulePlaces area) = [] := by
  refine List.eq_nil_iff_forall_not_mem.2 fun place hplace => ?_
  obtain ⟨data, hmodule, hallowed, hmarker⟩ :=
    (hremoves.searchable hsearchable).mem_instrumented.1 hplace
  obtain ⟨name, directory, executable, rfl, -, -, hnode⟩ := id hmodule
  have hfound := hsearchable.mem_instrumented.2
    ⟨data, hremoves.moduleAt hmodule, hallowed, hmarker⟩
  rw [hremoves.gone _ ⟨_, List.mem_map_of_mem hfound, rfl⟩] at hnode
  cases hnode

/-- A search that had an answer has one afterwards, too. -/
lemma Removes.answerable (hanswer : before.Answerable area marker forbidden) :
    after.Answerable area marker forbidden where
  nameable :=
    { base := hanswer.nameable.base
      directory := fun directory hbelow hdir =>
        hanswer.nameable.directory directory hbelow (hremoves.there hdir)
      entry := fun name directory hbelow hsuffix hthere => by
        obtain ⟨node, hnode⟩ := Option.ne_none_iff_exists'.1 hthere
        exact hanswer.nameable.entry name directory hbelow hsuffix
          (by simp [hremoves.there hnode]) }
  marked hmarker := by
    refine List.eq_nil_iff_forall_not_mem.2 fun place hplace => ?_
    obtain ⟨data, hmodule⟩ := (hremoves.searchable hsearchable).mem_modulePlaces.1 hplace
    have hbefore := hsearchable.mem_modulePlaces.2 ⟨data, hremoves.moduleAt hmodule⟩
    rw [hanswer.marked hmarker] at hbefore
    cases hbefore
  ir place hplace := by
    rw [hremoves.instrumented_eq_nil hsearchable] at hplace
    cases hplace

end Found

/-- The search of a staging area that was there or is made. -/
lemma discover_area_iff (h : Stageable pipeline.workspace root w.disk)
    (hshort : ¬TooLong (stagingArea root)) (ht : t.disk = withArea root w.disk) :
    (∃ u, Ends (discover (pathOf (stagingArea root)) marker forbidden) t (.ok modules) u) ↔
      (withArea root w.disk).Answerable (stagingArea root) marker forbidden ∧
        modules = (withArea root w.disk).modulesFound (stagingArea root) marker forbidden := by
  have hsearchable : t.disk.Searchable (stagingArea root) := ht ▸ h.searchable
  obtain ⟨hclean, hfind⟩ := hsearchable.find_root hshort
  rw [← ht]
  exact discover_ok_iff hsearchable hclean hfind

/-! ## The build -/

/-- The call of the build tool in an instrumented build. -/
def instrumentedCall (pipeline : Pipeline) (root : Location) (arguments : List String) : Call :=
  ⟨true, Cargo.command "build" arguments false, some (coverageVariables pipeline root)⟩

/-- The file at a path was not there before, or with other octets. -/
def Wrote (before after : Disk) (path : Path) : Prop :=
  ∃ place data executable, path = pathOf place ∧
    after.node? place = some (.file data executable) ∧
    ∀ executable, before.node? place ≠ some (.file data executable)

/-- Once the staging area was cleared, the build tool is called with the variables. -/
lemma ends_environment_of_prepared {cleared : World}
    (h : Stageable pipeline.workspace root w.disk)
    (hprepare : Ends (prepareTargetWhere forbidden pipeline) w (.ok staging) cleared) :
    Ends (environment pipeline) cleared (.ok (coverageVariables pipeline root)) cleared := by
  obtain ⟨-, ⟨-, hsearches, hremoves⟩ | ⟨⟨_, hfault⟩, -⟩⟩ := prepareTargetWhere_spec h hprepare
  · exact ends_environment h hsearches.1
      (keeps_of_kept hremoves.here fun _ _ => hremoves.stays h.searchable)
  · cases hfault

/-- **A build clears the staging area and calls the build tool.** -/
theorem buildWhere_ok_iff (h : Stageable pipeline.workspace root w.disk) :
    Ends (buildWhere forbidden pipeline tools arguments) w (.ok staging) w' ↔
      ∃ cleared, Ends (prepareTargetWhere forbidden pipeline) w (.ok staging) cleared ∧
        (∃ told, (cleared.response tools (instrumentedCall pipeline root arguments)).outcome =
          .ok told) ∧
        w' = cleared.answered tools (instrumentedCall pipeline root arguments) := by
  constructor
  · intro hend
    obtain ⟨path, cleared, hprepare, hend⟩ := ends_bind_ok.1 hend
    obtain ⟨vars, u, hvars, hend⟩ := ends_bind_ok.1 hend
    obtain ⟨_, v, hstream, hlast⟩ := ends_bind_ok.1 hend
    obtain ⟨heq, rfl⟩ := ends_pure.1 hlast
    obtain rfl := Except.ok.inj heq
    obtain ⟨heq, rfl⟩ := hvars.unique (ends_environment_of_prepared h hprepare)
    obtain rfl := Except.ok.inj heq
    obtain ⟨hcalled, rfl⟩ := ends_stream.1 hstream
    refine ⟨_, hprepare, ?_, rfl⟩
    cases houtcome : (u.response tools (instrumentedCall pipeline root arguments)).outcome with
    | ok told => exact ⟨told, rfl⟩
    | error fault => cases hcalled.trans (congrArg (Except.map _) houtcome)
  · rintro ⟨cleared, hprepare, ⟨told, htold⟩, rfl⟩
    refine hprepare.bind ((ends_environment_of_prepared h hprepare).bind ?_)
    exact (ends_stream.2 ⟨(congrArg (Except.map _) htold).symm, rfl⟩).bind (ends_pure.2 ⟨rfl, rfl⟩)

/-- **What the search of a finalization finds** are the modules in the staging area. -/
theorem findModules_ok_iff {search : Pipeline.Search}
    (h : Stageable pipeline.workspace root w.disk) :
    (∃ w', Ends (pipeline.findModules none forbidden) w (.ok search) w') ↔
      SearchesWhere forbidden pipeline root w.disk ∧
        search = ⟨pathOf (stagingArea root), pathOf (stagingArea root),
          (withArea root w.disk).modulesFound (stagingArea root)
            pipeline.settings.build.markerOctets forbidden⟩ := by
  obtain ⟨r, started, hstore⟩ := exists_ends (pipeline.workspace.store .staging) w
  constructor
  · rintro ⟨w', hend⟩
    obtain ⟨path, t, hmade, hend⟩ := ends_bind_ok.1 hend
    obtain ⟨heq, hshort, rfl⟩ | ⟨⟨_, hfault⟩, -⟩ := ends_area h hmade
    · obtain rfl := Except.ok.inj heq
      obtain ⟨base, u, hbase, hend⟩ := ends_bind_ok.1 hend
      obtain ⟨heq, rfl⟩ := ends_pure.1 hbase
      obtain rfl := Except.ok.inj heq
      obtain ⟨modules, u, hdiscover, hend⟩ := ends_bind_ok.1 hend
      obtain ⟨heq, -⟩ := ends_pure.1 (Pipeline.ends_note_bind.1 hend)
      obtain rfl := Except.ok.inj heq
      obtain ⟨hanswer, rfl⟩ := (discover_area_iff h hshort rfl).1 ⟨u, hdiscover⟩
      exact ⟨⟨hshort, hanswer⟩, rfl⟩
    · cases hfault
  · rintro ⟨⟨hshort, hanswer⟩, rfl⟩
    obtain ⟨rfl, -, rfl⟩ | ⟨-, hlong, -⟩ := ends_area h hstore
    · obtain ⟨u, hdiscover⟩ := (discover_area_iff
        (t := { w with disk := withArea root w.disk }) h hshort rfl).2 ⟨hanswer, rfl⟩
      exact ⟨_, hstore.bind (Ends.bind (ends_pure.2 ⟨rfl, rfl⟩) (hdiscover.bind
        (Pipeline.ends_note_bind.2 (ends_pure.2 ⟨rfl, rfl⟩))))⟩
    · exact absurd hlong hshort

/-- **A module that is there is new** if no module was found before. -/
theorem wrote_of_moduleAt (hbefore : before.Searchable area)
    (hnone : before.instrumented forbidden marker (before.modulePlaces area) = [])
    (h : after.ModuleAt area place data) (hallowed : forbidden (pathOf place) = false)
    (hmarker : marker <:+: data) : Wrote before after (pathOf place) := by
  obtain ⟨name, directory, executable, rfl, hbelow, hsuffix, hnode⟩ := h
  refine ⟨_, data, executable, rfl, hnode, fun executable hold => ?_⟩
  have hfound := hbefore.mem_instrumented.2
    ⟨data, ⟨name, directory, executable, rfl, hbelow, hsuffix, hold⟩, hallowed, hmarker⟩
  rw [hnone] at hfound
  cases hfound

/-- **Only modules of the last build are found.**  Clearing the staging area removes the modules
that a search finds there and nothing else, and then the search finds none.  So every module that a
finalization finds after a build was written by the build tool. -/
theorem only_new_modules (forbidden : Forbidden)
    (h : Stageable pipeline.workspace root w.disk) :
    (∀ staging cleared, Ends (prepareTargetWhere forbidden pipeline) w (.ok staging) cleared →
      ∃ stale started found left,
        Ends (pipeline.workspace.store .staging) w (.ok staging) started ∧
        started.disk = withArea root w.disk ∧
        Ends (discover staging pipeline.settings.build.markerOctets forbidden) started (.ok stale)
          found ∧
        Removes stale started.disk cleared.disk ∧
        Ends (discover staging pipeline.settings.build.markerOctets forbidden) cleared (.ok [])
          left) ∧
    ∀ (tools : Toolbox) (arguments : List String) staging w',
      Ends (buildWhere forbidden pipeline tools arguments) w (.ok staging) w' →
      Stageable pipeline.workspace root w'.disk →
      ∃ cleared, Ends (prepareTargetWhere forbidden pipeline) w (.ok staging) cleared ∧
        w' = cleared.answered tools (instrumentedCall pipeline root arguments) ∧
        ∀ search found, Ends (pipeline.findModules none forbidden) w' (.ok search) found →
          ∀ module ∈ search.modules, Wrote cleared.disk w'.disk module.path := by
  refine ⟨fun staging cleared hend => ?_, fun tools arguments staging w' hend hbuilt => ?_⟩
  · obtain ⟨-, ⟨hpath, hsearches, hremoves⟩ | ⟨⟨_, hfault⟩, -⟩⟩ := prepareTargetWhere_spec h hend
    · obtain rfl := Except.ok.inj hpath
      obtain ⟨path, started, hstore, -⟩ := ends_bind_ok.1 hend
      obtain ⟨heq, -, rfl⟩ | ⟨⟨_, hfault⟩, -⟩ := ends_area h hstore
      · obtain rfl := Except.ok.inj heq
        obtain ⟨found, hfound⟩ :=
          (discover_area_iff (t := { w with disk := withArea root w.disk }) h hsearches.1 rfl).2
            ⟨hsearches.2, rfl⟩
        have hsearchable := hremoves.searchable h.searchable
        obtain ⟨hclean, hfind⟩ := hsearchable.find_root hsearches.1
        obtain ⟨left, hleft⟩ := (discover_ok_iff hsearchable hclean hfind).2
          ⟨hremoves.answerable h.searchable hsearches.2, rfl⟩
        rw [modulesFound, hremoves.instrumented_eq_nil h.searchable] at hleft
        exact ⟨_, _, found, left, hstore, rfl, hfound, hremoves, hleft⟩
      · cases hfault
    · cases hfault
  · obtain ⟨cleared, hprepare, -, hcalled⟩ := (buildWhere_ok_iff h).1 hend
    refine ⟨cleared, hprepare, hcalled, fun search found hfound module hmodule => ?_⟩
    obtain ⟨-, ⟨-, -, hremoves⟩ | ⟨⟨_, hfault⟩, -⟩⟩ := prepareTargetWhere_spec h hprepare
    · obtain ⟨-, rfl⟩ := (findModules_ok_iff hbuilt).1 ⟨found, hfound⟩
      obtain ⟨place, hplace, rfl⟩ := List.mem_map.1 hmodule
      obtain ⟨data, hthere, hallowed, hmarker⟩ := hbuilt.searchable.mem_instrumented.1 hplace
      exact wrote_of_moduleAt (hremoves.searchable h.searchable)
        (hremoves.instrumented_eq_nil h.searchable) (moduleAt_withArea.1 hthere) hallowed hmarker
    · cases hfault

/-! ## One build after another -/

/-- It is enough to look at the entries. -/
lemma answerable_of_entries {disk : Disk} (hdistinct : disk.Distinct) (hne : area ≠ [])
    (hshort : ¬TooLong area) (hmarker : marker ≠ []) (hsearchable : disk.Searchable area)
    (hentries : ∀ entry ∈ disk.entries, (¬TooLong entry.1 ∧ ¬TooLong (moduleDirectory :: entry.1)) ∧
      ¬TooLong (irPlace entry.1)) : disk.Answerable area marker forbidden where
  nameable := nameable_of_entries hdistinct hshort hne fun entry hentry => (hentries entry hentry).1
  marked hnone := absurd hnone hmarker
  ir place hplace := by
    obtain ⟨data, ⟨name, directory, executable, rfl, -, -, hnode⟩, -⟩ :=
      hsearchable.mem_instrumented.1 hplace
    exact (hentries _ ((mem_entries hdistinct (by simp)).2 hnode)).2

/-- The disk after a build that left a new module. -/
def rebuiltDisk : Disk where
  here := []
  entries := [(["w"], .directory), (["staging", "w"], .directory),
    (["deps", "staging", "w"], .directory),
    (["z.wasm", "deps", "staging", "w"], .file (Text.octetsOf defaultMarker) false)]

/-- A build tool that leaves it. -/
def rebuilder : Toolbox := fun _ _ _ =>
  { outcome := .ok "", disk := rebuiltDisk }

lemma stageable_rebuiltDisk :
    Stageable Pipeline.profilePipeline.workspace ["w"] rebuiltDisk where
  bound := rfl
  names := by decide +kernel
  tree := isTree_of_entries (by decide +kernel)
  stands := rfl
  clean := by decide +kernel
  distinct := by decide +kernel
  area := .inr (searchable_of_entries (by decide +kernel) (by decide +kernel)
    (fun place _ => noLink_of_linkCount (by decide +kernel) place) (by decide +kernel))

/-- The module of an earlier build is removed, and the search after the build finds that of the
build. -/
theorem only_new_modules_rebuilt :
    Stageable Pipeline.profilePipeline.workspace ["w"] staleWorld.disk ∧
    ∃ staging cleared w',
      Ends (prepareTargetWhere (fun _ => false) Pipeline.profilePipeline) staleWorld (.ok staging)
        cleared ∧
      Ends (buildWhere (fun _ => false) Pipeline.profilePipeline rebuilder ["-q"]) staleWorld
        (.ok staging) w' ∧
      Stageable Pipeline.profilePipeline.workspace ["w"] w'.disk ∧
      ∃ search found,
        Ends (Pipeline.profilePipeline.findModules none fun _ => false) w' (.ok search) found ∧
        search.modules ≠ [] ∧
        ∀ module ∈ search.modules, Wrote cleared.disk w'.disk module.path := by
  have h := stageable_staleWorld
  have hsearches : SearchesWhere (fun _ => false) Pipeline.profilePipeline ["w"]
      staleWorld.disk :=
    ⟨by decide +kernel, answerable_of_entries h.searchable.distinct (by decide) (by decide +kernel)
      (by decide +kernel) h.searchable (by decide +kernel)⟩
  have hbuilt := stageable_rebuiltDisk
  have hfinds : SearchesWhere (fun _ => false) Pipeline.profilePipeline ["w"] rebuiltDisk :=
    ⟨by decide +kernel, answerable_of_entries hbuilt.searchable.distinct (by decide)
      (by decide +kernel) (by decide +kernel) hbuilt.searchable (by decide +kernel)⟩
  obtain ⟨r, cleared, hprepare⟩ :=
    exists_ends (prepareTargetWhere (fun _ => false) Pipeline.profilePipeline) staleWorld
  obtain ⟨-, ⟨rfl, -, -⟩ | ⟨-, hfails, -⟩⟩ := prepareTargetWhere_spec h hprepare
  · have hbuild : Ends (buildWhere (fun _ => false) Pipeline.profilePipeline rebuilder ["-q"])
        staleWorld _ _ :=
      (buildWhere_ok_iff h).2 ⟨cleared, hprepare, ⟨"", rfl⟩, rfl⟩
    obtain ⟨found, hfound⟩ := (findModules_ok_iff
      (w := cleared.answered rebuilder (instrumentedCall Pipeline.profilePipeline ["w"] ["-q"]))
      hbuilt).2 ⟨hfinds, rfl⟩
    obtain ⟨other, hother, -, hnew⟩ :=
      (only_new_modules _ h).2 rebuilder ["-q"] _ _ hbuild hbuilt
    obtain ⟨-, rfl⟩ := hother.unique hprepare
    refine ⟨h, _, _, _, hprepare, hbuild, hbuilt, _, found, hfound, ?_, hnew _ found hfound⟩
    have hthere : rebuiltDisk.ModuleAt (stagingArea ["w"]) ["z.wasm", "deps", "staging", "w"]
        (Text.octetsOf defaultMarker) :=
      ⟨"z.wasm", ["staging", "w"], false, rfl, List.suffix_rfl, by decide +kernel, rfl⟩
    exact List.ne_nil_of_mem (List.mem_map_of_mem (hbuilt.searchable.mem_instrumented.2
      ⟨_, moduleAt_withArea.2 hthere, rfl, List.infix_rfl⟩))
  · exact absurd hsearches hfails

end WasmCoverage.InstrumentedBuild
