import WasmCoverage.InstrumentedBuild
import WasmCoverage.Proofs.Discovery.Again
import WasmCoverage.Proofs.Pipeline.Calls
import WasmCoverage.Proofs.Workspace.Tidy

/-!
# Clearing the staging area

Before an instrumented build, or before binaries that start one, the instrumented modules of earlier
builds are removed.  **Exactly the stale modules go** (`prepareTarget_spec`), if the staging area is
a tree without links: the search finds them all before the first one is removed, and removing a file
takes away that one entry (`ends_removeAll`).  The search itself can only fail where a path is too
long, or if there is no marker to search for; then nothing is removed at all.
-/

namespace WasmCoverage.InstrumentedBuild

open WasmCoverage.Disk WasmCoverage.Workspace

variable {pipeline : Pipeline} {workspace : Workspace} {root : Location} {disk : Disk}
  {w w' : World}

/-! ## The staging area -/

/-- The place of the staging area. -/
abbrev stagingArea (root : Location) : Location :=
  Store.staging.directory :: root

/-- A rooted workspace whose staging area is a tree of files and directories, or not made yet. -/
structure Stageable (workspace : Workspace) (root : Location) (disk : Disk) : Prop
    extends workspace.Rooted root disk where
  clean : ∀ name ∈ root, '\x00' ∉ name.toList
  distinct : disk.Distinct
  area : disk.node? (stagingArea root) = none ∨ disk.Searchable (stagingArea root)

/-- The disk after the staging area was asked for. -/
def withArea (root : Location) (disk : Disk) : Disk :=
  if disk.node? (stagingArea root) = none then disk.put (stagingArea root) .directory else disk

/-- An instrumented module of an earlier build. -/
def Stale (marker : Text.Octets) (root : Location) (disk : Disk) (place : Location) : Prop :=
  ∃ data, disk.ModuleAt (stagingArea root) place data ∧ marker <:+: data

/-- The stale modules are gone, and everything else is as it was, but that the staging area is
made. -/
structure Cleared (marker : Text.Octets) (root : Location) (before after : Disk) : Prop where
  here : after.here = before.here
  area : after.node? (stagingArea root) = some .directory
  gone : ∀ place, Stale marker root before place → after.node? place = none
  kept : ∀ place, place ≠ stagingArea root → ¬Stale marker root before place →
    after.node? place = before.node? place

lemma node?_withArea_of_ne {place : Location} (hne : place ≠ stagingArea root) :
    (withArea root disk).node? place = disk.node? place := by
  unfold withArea
  split
  · rw [node?_put (List.cons_ne_nil _ _), if_neg hne]
  · rfl

/-- A module is deeper than the staging area. -/
lemma ne_area_of_below {name : String} {directory : Location}
    (hbelow : stagingArea root <:+ directory) :
    name :: moduleDirectory :: directory ≠ stagingArea root := by
  intro heq
  have hlength := hbelow.length_le
  rw [← heq] at hlength
  simp only [List.length_cons] at hlength
  omega

lemma moduleAt_withArea {place : Location} {data : Text.Octets} :
    (withArea root disk).ModuleAt (stagingArea root) place data ↔
      disk.ModuleAt (stagingArea root) place data := by
  constructor
  all_goals
    rintro ⟨name, directory, executable, rfl, hbelow, hsuffix, hnode⟩
    refine ⟨name, directory, executable, rfl, hbelow, hsuffix, ?_⟩
  · rwa [node?_withArea_of_ne (ne_area_of_below hbelow)] at hnode
  · rwa [node?_withArea_of_ne (ne_area_of_below hbelow)]

/-- **A staging area that was just made can be searched** like one that was there. -/
theorem Stageable.searchable (h : Stageable workspace root disk) :
    (withArea root disk).Searchable (stagingArea root) := by
  rcases h.area with hnone | hsearchable
  · have hnothing (place : Location) (hbelow : stagingArea root <:+ place)
        (hne : place ≠ stagingArea root) : (withArea root disk).node? place = none := by
      rw [node?_withArea_of_ne hne]
      exact h.tree.node?_below (by simp [hnone]) hbelow hne
    have hput : withArea root disk = disk.put (stagingArea root) .directory := if_pos hnone
    have hstands : (withArea root disk).node? (stagingArea root) = some .directory := by
      rw [hput, node?_put (List.cons_ne_nil _ _), if_pos rfl]
    refine ⟨hput ▸ h.tree.put h.stands hnone, hput ▸ h.distinct.put _ _, hstands,
      fun place hbelow hthere => ?_, fun place hbelow target hlink => ?_⟩
    · obtain rfl : place = stagingArea root := by
        by_contra hne
        exact hthere (hnothing place hbelow hne)
      exact List.forall_mem_cons.2 ⟨⟨isName_directory _, not_mem_directory _⟩,
        fun name hname => ⟨h.names name hname, h.clean name hname⟩⟩
    · by_cases hplace : place = stagingArea root
      · rw [hplace, hstands] at hlink
        cases hlink
      · rw [hnothing place hbelow hplace] at hlink
        cases hlink
  · rwa [withArea, if_neg (by simp [hsearchable.stands])]

/-! ## Removing modules -/

/-- The module is at an entry that is a file, or gone already. -/
def Removable (disk : Disk) (module : Module) : Prop :=
  ∃ name directory, module.path = pathOf (name :: directory) ∧ disk.Entry name directory ∧
    ¬TooLong (name :: directory) ∧ Plain (disk.node? (name :: directory))

/-- The module goes, and nothing else. -/
lemma ends_removeStale {module : Module} (htree : w.disk.IsTree) (hdistinct : w.disk.Distinct)
    {place : Location} (hpath : module.path = pathOf place) (h : Removable w.disk module) : ∃ w',
    Ends (removeStale module) w (.ok ()) w' ∧ w'.calls = w.calls ∧ AllBut place w.disk w'.disk ∧
      w'.disk.node? place = none ∧ w'.disk.IsTree ∧ w'.disk.Distinct := by
  obtain ⟨name, directory, hplace, hentry, hshort, hplain⟩ := h
  obtain rfl := pathOf_inj (hpath.symm.trans hplace)
  have hacts := acts_removeIfThere name directory w.disk hentry
  rw [Effect.within, if_neg hshort, ← hplace] at hacts
  have hremove {disk : Disk} (hremoved : Ends (removeIfThere module.path) w.disk (.ok ()) disk) :
      ∃ t, Ends (removeStale module) w (.ok ()) t ∧ t.calls = w.calls ∧ t.disk = disk :=
    ⟨_, (ends_modify.2 ⟨rfl, rfl⟩).bind (ends_onDisk_ok.2 ⟨disk, hremoved, rfl⟩), rfl, rfl⟩
  rcases hplain with hnone | ⟨data, executable, hfile⟩
  · rw [hnone] at hacts
    obtain ⟨t, hend, hcalls, hdisk⟩ := hremove hacts
    exact ⟨t, hend, hcalls, hdisk ▸ AllBut.refl _ _, hdisk ▸ hnone, hdisk ▸ htree,
      hdisk ▸ hdistinct⟩
  · rw [hfile] at hacts
    obtain ⟨t, hend, hcalls, hdisk⟩ := hremove hacts
    replace hdisk : t.disk = w.disk.drop (name :: directory) := hdisk
    obtain ⟨hbut, hgone⟩ := htree.drop_allBut (List.cons_ne_nil name directory) (by simp [hfile])
    rw [← hdisk] at hbut hgone
    exact ⟨t, hend, hcalls, hbut, hgone, hdisk ▸ htree.drop (List.cons_ne_nil _ _),
      hdisk ▸ hdistinct.drop _⟩

/-- An entry is an entry, whatever became of a file elsewhere. -/
lemma Removable.allBut {module : Module} {disk' : Disk} {place : Location}
    (h : Removable disk module) (hallBut : AllBut place disk disk')
    (hplain : Plain (disk.node? place)) (hgone : disk'.node? place = none) :
    Removable disk' module := by
  obtain ⟨name, directory, hpath, hentry, hshort, hnode⟩ := h
  have hnode' (other : Location) : disk'.node? other = disk.node? other ∨
      (Plain (disk.node? other) ∧ disk'.node? other = none) := by
    by_cases hother : other = place
    · exact .inr ⟨hother ▸ hplain, hother ▸ hgone⟩
    · exact .inl (hallBut.node other hother)
  refine ⟨name, directory, hpath, ⟨fun above habove => ?_, hentry.names, hentry.clean,
    fun target hlink => ?_⟩, hshort, ?_⟩
  · rcases hnode' above with heq | ⟨hfile, -⟩
    · rw [heq, hentry.stands above habove]
    · exact absurd (hentry.stands above habove) hfile.ne_directory
  · rcases hnode' (name :: directory) with heq | ⟨-, hnone⟩
    · exact hentry.noLink target (heq ▸ hlink)
    · rw [hnone] at hlink
      cases hlink
  · rcases hnode' (name :: directory) with heq | ⟨-, hnone⟩
    · rwa [heq]
    · exact .inl hnone

/-- Some modules are gone, and nothing else went with them. -/
structure Removes (modules : List Module) (before after : Disk) : Prop where
  here : after.here = before.here
  tree : after.IsTree
  distinct : after.Distinct
  gone : ∀ place, (∃ module ∈ modules, module.path = pathOf place) → after.node? place = none
  kept : ∀ place, (∀ module ∈ modules, module.path ≠ pathOf place) →
    after.node? place = before.node? place

/-- **Modules are removed one after another**, and nothing else goes with them. -/
theorem ends_removeAll : ∀ {modules : List Module} {w : World}, w.disk.IsTree →
    w.disk.Distinct → (∀ module ∈ modules, Removable w.disk module) → ∃ w',
    Ends (modules.forM removeStale) w (.ok ()) w' ∧ w'.calls = w.calls ∧
      Removes modules w.disk w'.disk
  | [], w, htree, hdistinct, _ =>
      ⟨w, ends_pure.2 ⟨rfl, rfl⟩, rfl, rfl, htree, hdistinct, by simp, by simp⟩
  | module :: rest, w, htree, hdistinct, h => by
      obtain ⟨hmodule, hrest⟩ := List.forall_mem_cons.1 h
      obtain ⟨name, directory, hpath, -, -, hplain⟩ := id hmodule
      obtain ⟨t, hfirst, hcalls, hbut, hgone, htree', hdistinct'⟩ :=
        ends_removeStale htree hdistinct hpath hmodule
      obtain ⟨w', hmore, hcalls', hremoves⟩ := ends_removeAll htree' hdistinct'
        fun other hother => (hrest other hother).allBut hbut hplain hgone
      refine ⟨w', hfirst.bind hmore, hcalls'.trans hcalls, hremoves.here.trans hbut.here,
        hremoves.tree, hremoves.distinct, fun place hplace => ?_, fun place hplace => ?_⟩
      · by_cases hlater : ∃ other ∈ rest, other.path = pathOf place
        · exact hremoves.gone place hlater
        · replace hlater : ∀ other ∈ rest, other.path ≠ pathOf place := fun other hother heq =>
            hlater ⟨other, hother, heq⟩
          obtain ⟨other, hother, heq⟩ := hplace
          obtain rfl | hlist := List.mem_cons.1 hother
          · rw [hremoves.kept place hlater, ← pathOf_inj (hpath.symm.trans heq), hgone]
          · exact absurd heq (hlater other hlist)
      · obtain ⟨hne, hlater⟩ := List.forall_mem_cons.1 hplace
        rw [hremoves.kept place hlater]
        exact hbut.node place fun heq => hne (heq ▸ hpath)

/-! ## The main result -/

/-- The search of the staging area has an answer: no path that it asks for is too long, and there is
a marker if there are modules. -/
def Searches (pipeline : Pipeline) (root : Location) (disk : Disk) : Prop :=
  ¬TooLong (stagingArea root) ∧ (withArea root disk).Answerable (stagingArea root)
    pipeline.settings.build.markerOctets fun _ => false

/-- The search has an answer where some files may not be opened. -/
def SearchesWhere (forbidden : Forbidden) (pipeline : Pipeline) (root : Location) (disk : Disk) :
    Prop :=
  ¬TooLong (stagingArea root) ∧ (withArea root disk).Answerable (stagingArea root)
    pipeline.settings.build.markerOctets forbidden

/-- The staging area is there or is made, unless its path is too long. -/
lemma ends_area {r : Except Fault Path} (h : Stageable pipeline.workspace root w.disk)
    (hend : Ends (pipeline.workspace.store .staging) w r w') :
    (r = .ok (pathOf (stagingArea root)) ∧ ¬TooLong (stagingArea root) ∧
        w' = { w with disk := withArea root w.disk }) ∨
      ((∃ fault, r = .error fault) ∧ TooLong (stagingArea root) ∧ w' = w) := by
  have hentry : w.disk.Entry Store.staging.directory root :=
    ⟨h.tree.stands h.stands, h.isName .staging, hasNul_pathOf (List.forall_mem_cons.2
      ⟨not_mem_directory _, h.clean⟩), fun target hlink => by
        rcases h.area with hnone | hsearchable
        · cases hnone.symm.trans hlink
        · cases hsearchable.stands.symm.trans hlink⟩
  have hmake := acts_makeDirectories Store.staging.directory root w.disk hentry
  by_cases hlong : TooLong (stagingArea root)
  · rw [Effect.within, if_pos hlong] at hmake
    obtain ⟨path, t, hroot, hrest⟩ | ⟨fault, hroot, rfl⟩ := ends_bind.1 hend
    · obtain ⟨heq, rfl⟩ := hroot.unique (ends_root h.bound)
      obtain rfl := Except.ok.inj heq
      rw [child_pathOf _ (isName_directory _)] at hrest
      obtain ⟨_, u, hdone, _⟩ | ⟨fault, hfailed, rfl⟩ := ends_bind.1 hrest
      · obtain ⟨disk, hmade, _⟩ := ends_onDiskOr_ok.1 hdone
        cases (hmade.unique hmake).1
      · obtain ⟨result, disk, hmade, _, rfl⟩ := ends_onDiskOr.1 hfailed
        obtain ⟨_, rfl⟩ := hmade.unique hmake
        exact .inr ⟨⟨fault, rfl⟩, hlong, rfl⟩
    · cases (hroot.unique (ends_root h.bound)).1
  · rw [Effect.within, if_neg hlong] at hmake
    refine .inl ?_
    have hmade : Ends (makeDirectories (pathOf (stagingArea root))) w.disk (.ok ())
        (withArea root w.disk) := by
      rcases h.area with hnone | hsearchable
      · rw [hnone] at hmake
        rwa [withArea, if_pos hnone]
      · rw [hsearchable.stands] at hmake
        rwa [withArea, if_neg (by simp [hsearchable.stands])]
    obtain ⟨rfl, rfl⟩ := hend.unique (ends_store_of_made h.bound hmade)
    exact ⟨rfl, hlong, rfl⟩

lemma calls_discover {path : Path} {marker : Text.Octets} {forbidden : Forbidden}
    {r : Except Fault (List Module)} (h : Ends (discover path marker forbidden) w r w') :
    w'.calls = w.calls :=
  Makes.calls_eq (makes_discover path marker forbidden _ _ _ h)

/-- What a search found can be removed. -/
lemma removable_of_found {marker : Text.Octets} {forbidden : Forbidden} {module : Module}
    (hanswer : disk.Answerable root marker forbidden) (h : disk.Searchable root)
    (hmodule : module ∈ disk.modulesFound root marker forbidden) : Removable disk module := by
  obtain ⟨name, directory, data, executable, hpath, hentry, hshort, hnode⟩ :=
    hanswer.file_of_module h hmodule (.inl rfl)
  exact ⟨name, _, hpath, hentry, hshort, .inr ⟨data, executable, hnode⟩⟩

/-- The modules that are found are the stale ones. -/
lemma mem_found_iff {marker : Text.Octets} (h : (withArea root disk).Searchable (stagingArea root))
    {place : Location} :
    (∃ module ∈ (withArea root disk).modulesFound (stagingArea root) marker fun _ => false,
      module.path = pathOf place) ↔ Stale marker root disk place := by
  simp only [modulesFound, List.mem_map, h.mem_instrumented, moduleAt_withArea]
  constructor
  · rintro ⟨_, ⟨found, ⟨data, hmodule, -, hmarker⟩, rfl⟩, hpath⟩
    obtain rfl := pathOf_inj hpath
    exact ⟨data, hmodule, hmarker⟩
  · rintro ⟨data, hmodule, hmarker⟩
    exact ⟨_, ⟨place, ⟨data, hmodule, trivial, hmarker⟩, rfl⟩, rfl⟩

/-- The staging area is cleared when the modules that were found are removed. -/
lemma cleared_of_removes {marker : Text.Octets} {disk' : Disk}
    (h : (withArea root disk).Searchable (stagingArea root))
    (hremoves : Removes ((withArea root disk).modulesFound (stagingArea root) marker
      fun _ => false) (withArea root disk) disk') : Cleared marker root disk disk' where
  here := by
    rw [hremoves.here, withArea]
    split <;> rfl
  area := by
    rw [hremoves.kept, h.stands]
    intro module hmodule hpath
    obtain ⟨data, ⟨name, directory, _, heq, hbelow, -, -⟩, -⟩ :=
      (mem_found_iff h).1 ⟨module, hmodule, hpath⟩
    exact ne_area_of_below hbelow heq.symm
  gone place hstale := hremoves.gone place ((mem_found_iff h).2 hstale)
  kept place hne hfresh := by
    rw [hremoves.kept, node?_withArea_of_ne hne]
    intro module hmodule hpath
    exact hfresh ((mem_found_iff h).1 ⟨module, hmodule, hpath⟩)

/-- **The modules that a search finds are removed**, or none if the search fails. -/
theorem prepareTargetWhere_spec {forbidden : Forbidden} {r : Except Fault Path}
    (h : Stageable pipeline.workspace root w.disk)
    (hend : Ends (prepareTargetWhere forbidden pipeline) w r w') :
    w'.calls = w.calls ∧
    ((r = .ok (pathOf (stagingArea root)) ∧ SearchesWhere forbidden pipeline root w.disk ∧
        Removes ((withArea root w.disk).modulesFound (stagingArea root)
          pipeline.settings.build.markerOctets forbidden) (withArea root w.disk) w'.disk) ∨
      ((∃ fault, r = .error fault) ∧ ¬SearchesWhere forbidden pipeline root w.disk ∧
        (w'.disk = w.disk ∨ w'.disk = withArea root w.disk))) := by
  have hsearchable := h.searchable
  rcases ends_bind.1 hend with ⟨staging, t, hstore, hrest⟩ | ⟨fault, hstore, rfl⟩
  · obtain ⟨hpath, hshort, rfl⟩ | ⟨⟨fault, hfault⟩, -⟩ := ends_area h hstore
    · obtain rfl := Except.ok.inj hpath
      obtain ⟨hclean, hfind⟩ := hsearchable.find_root hshort
      have hiff (modules : List Module) : (∃ u, Ends (discover (pathOf (stagingArea root))
          pipeline.settings.build.markerOctets forbidden)
          { w with disk := withArea root w.disk } (.ok modules) u) ↔ _ :=
        discover_ok_iff hsearchable hclean hfind
      rcases ends_bind.1 hrest with ⟨modules, u, hdiscover, hremove⟩ | ⟨fault, hdiscover, rfl⟩
      · have hu : u.disk = withArea root w.disk := (respects_discover _ _ _ _ hdiscover).symm
        have hcalls := calls_discover hdiscover
        obtain ⟨hanswer, rfl⟩ := (hiff modules).1 ⟨u, hdiscover⟩
        obtain ⟨w', hends, hcalls', hremoves⟩ := ends_removeAll
          (hu ▸ hsearchable.tree) (hu ▸ hsearchable.distinct) fun module hmodule =>
            hu ▸ removable_of_found hanswer hsearchable hmodule
        obtain ⟨rfl, rfl⟩ := hremove.unique (hends.bind (ends_pure.2 ⟨rfl, rfl⟩))
        rw [hu] at hremoves
        exact ⟨hcalls'.trans hcalls, .inl ⟨rfl, ⟨hshort, hanswer⟩, hremoves⟩⟩
      · have hcalls := calls_discover hdiscover
        refine ⟨hcalls, .inr ⟨⟨fault, rfl⟩, fun hsearches => ?_, .inr ?_⟩⟩
        · obtain ⟨u, hfound⟩ := (hiff _).2 ⟨hsearches.2, rfl⟩
          cases (hdiscover.unique hfound).1
        · exact (respects_discover _ _ _ _ hdiscover).symm
    · cases hfault
  · obtain ⟨hpath, -⟩ | ⟨-, hlong, rfl⟩ := ends_area h hstore
    · cases hpath
    · exact ⟨rfl, .inr ⟨⟨fault, rfl⟩, fun hsearches => hsearches.1 hlong, .inl rfl⟩⟩

/-- **Exactly the stale modules are removed**, or none if the search for them fails. -/
theorem prepareTarget_spec {r : Except Fault Path}
    (h : Stageable pipeline.workspace root w.disk) (hend : Ends (prepareTarget pipeline) w r w') :
    w'.calls = w.calls ∧
    ((r = .ok (pathOf (stagingArea root)) ∧ Searches pipeline root w.disk ∧
        Cleared pipeline.settings.build.markerOctets root w.disk w'.disk) ∨
      ((∃ fault, r = .error fault) ∧ ¬Searches pipeline root w.disk ∧
        (w'.disk = w.disk ∨ w'.disk = withArea root w.disk))) := by
  obtain ⟨hcalls, ⟨rfl, hsearches, hremoves⟩ | hfails⟩ := prepareTargetWhere_spec h hend
  · exact ⟨hcalls, .inl ⟨rfl, hsearches, cleared_of_removes h.searchable hremoves⟩⟩
  · exact ⟨hcalls, .inr hfails⟩

end WasmCoverage.InstrumentedBuild
