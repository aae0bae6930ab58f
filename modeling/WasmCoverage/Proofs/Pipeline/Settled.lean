import WasmCoverage.Proofs.Pipeline.Frames
import WasmCoverage.Proofs.Pipeline.Phases

/-!
# Workspaces as runs leave them

In a workspace that nobody but the pipeline wrote to, stores are directories, profiles and the
record of a run are files, and objects are found under their paths: it is `Settled`.  Steps keep
it so (`settled_of_altered`).  There a group is merged and reported whatever the tools answer
(`Settled.mergeGroup`, `Settled.reportOne`), as long as there is room for its paths and a directory
name can be made of its name: it is `Placeable`.
-/

namespace WasmCoverage.Pipeline

open WasmCoverage.Disk WasmCoverage.Workspace

variable {pipeline : Pipeline} {tools : Toolbox} {extra : List String} {root : Location}
  {workspace : Workspace} {disk disk' : Disk} {w w' : World}

/-! ## Settled workspaces -/

/-- The stores that objects are looked for in. -/
def searched : List Store := [.staging, .objects]

lemma ne_rawProfiles_of_searched {store : Store} (h : store ∈ searched) : store ≠ .rawProfiles := by
  rintro rfl
  revert h
  decide

/-- What a run expects to find in a place. -/
structure Expected (root location : Location) (node : Option Node) : Prop where
  store : ∀ store : Store, store ≠ .rawProfiles → location = store.directory :: root →
    node = none ∨ node = some .directory
  profile : ∀ name, location = name :: Store.mergedProfiles.directory :: root →
    node ≠ some .directory
  record : ∀ name ∈ [reportRecord, reportDocument],
    location = name :: Store.reports.directory :: root → node ≠ some .directory
  object : ∀ name, ∀ store ∈ searched, location = name :: store.directory :: root →
    node ≠ none → Path.IsName name ∧ '\x00' ∉ name.toList ∧ ¬ TooLong location

/-- A tidy workspace in which everything is what a run expects. -/
structure Settled (workspace : Workspace) (root : Location) (disk : Disk) : Prop
    extends workspace.Tidy root disk where
  expected : ∀ location, Expected root location (disk.node? location)

/-- Steps that touch nothing but what is expected keep a workspace settled. -/
lemma settled_of_altered (h : Settled workspace root disk)
    (haltered : Altered workspace root (Expected root) disk disk') :
    Settled workspace root disk' :=
  ⟨haltered.tidy, fun location =>
    (haltered.node location).elim (fun heq => heq ▸ h.expected location) id⟩

lemma ne_below {a b : String} {store other : Store} (hne : store ≠ other) :
    a :: store.directory :: root ≠ b :: other.directory :: root := by
  intro h
  have hname := (List.cons.inj (List.cons.inj h).2).1
  revert hne hname
  cases store <;> cases other <;> decide

lemma ne_store_of_length {location : Location} (hlength : root.length + 2 ≤ location.length)
    (store : Store) : location ≠ store.directory :: root := by
  rintro rfl
  simp at hlength

/-- A directory of a store is expected. -/
lemma expected_store (store : Store) :
    Expected root (store.directory :: root) (some .directory) where
  store _ _ _ := Or.inr rfl
  profile name h := absurd h.symm (ne_store_of_length (by simp) store)
  record name _ h := absurd h.symm (ne_store_of_length (by simp) store)
  object name other _ h := absurd h.symm (ne_store_of_length (by simp) store)

/-- A file outside of the stores that objects are looked for in is expected. -/
lemma expected_plain {name : String} {store : Store} {node : Option Node}
    (hstore : store ∉ searched) (hplain : Plain node) :
    Expected root (name :: store.directory :: root) node where
  store other _ h := absurd h (ne_store_of_length (by simp) other)
  profile _ _ := hplain.ne_directory
  record _ _ _ := hplain.ne_directory
  object other searchedStore hsearched h := by
    refine absurd h (ne_below ?_)
    rintro rfl
    exact absurd hsearched hstore

/-- An object is expected in a store that objects are looked for in. -/
lemma expected_object {name : String} {store : Store} {node : Option Node}
    (hname : Path.IsName name) (hnul : '\x00' ∉ name.toList)
    (hshort : ¬ TooLong (name :: store.directory :: root)) (hplain : Plain node) :
    Expected root (name :: store.directory :: root) node where
  store other _ h := absurd h (ne_store_of_length (by simp) other)
  profile _ _ := hplain.ne_directory
  record _ _ _ := hplain.ne_directory
  object other store _ h _ := by
    obtain rfl := (List.cons.inj h).1
    exact ⟨hname, hnul, hshort⟩

/-- The steps of a run touch nothing but what is expected. -/
lemma allows_expected : Allows root (Expected root) where
  store store _ := expected_store store
  profile _ _ _ _ := expected_plain (by decide)

/-- The tree of a report may hold anything, unless it is in the place of the record or of the
document. -/
lemma expected_tree {made : String} (hmade : made ∉ [reportRecord, reportDocument])
    (place : Location) (node : Option Node)
    (hsuffix : made :: Store.reports.directory :: root <:+ place) : Expected root place node := by
  have hlength : root.length + 2 ≤ place.length := by
    have := hsuffix.length_le
    simp only [List.length_cons] at this
    omega
  have hother {name : String} {store : Store}
      (h : place = name :: store.directory :: root) : name = made ∧ store = .reports := by
    subst h
    have heq := hsuffix.eq_of_length rfl
    refine ⟨(List.cons.inj heq).1.symm, ?_⟩
    by_contra hne
    exact ne_below (Ne.symm hne) heq
  exact
    { store := fun store _ h => absurd h (ne_store_of_length hlength store)
      profile := fun name h => absurd (hother h).2 (by decide)
      record := fun name hname h => absurd ((hother h).1 ▸ hname) hmade
      object := fun name store hstore h => by
        rw [(hother h).2] at hstore
        exact absurd hstore (by decide) }

/-! ## Room for a run -/

/-- The paths of the stores, of the record and of the document are not too long. -/
structure Roomy (root : Location) : Prop where
  store : ∀ store : Store, ¬ TooLong (store.directory :: root)
  record : ∀ name ∈ [reportRecord, reportDocument],
    ¬ TooLong (name :: Store.reports.directory :: root)

/-- A directory name can be made of the name of a group, it is not that of the record or of the
document, and the paths of the profile and of the objects of that name are not too long. -/
structure Placeable (root : Location) (name made : String) : Prop where
  isName : Path.IsName name
  clean : '\x00' ∉ name.toList
  named : Artifact.directoryName name = .ok made
  tree : made ∉ [reportRecord, reportDocument]
  profile : ¬ TooLong ((made ++ mergedSuffix) :: Store.mergedProfiles.directory :: root)
  object : ∀ store ∈ searched, ¬ TooLong ((name ++ objectSuffix) :: store.directory :: root)

/-- Something expected is put where nothing is. -/
lemma Settled.put (h : Settled workspace root disk) {location : Location} {node : Node}
    (hnone : disk.node? location = none) (haround : disk.node? location.tail = some .directory)
    (hlink : ∀ target, node ≠ .link target) (hexpected : Expected root location (some node)) :
    Settled workspace root (disk.put location node) := by
  refine settled_of_altered h (h.altered_put (fun heq => ?_) (fun _ _ => hnone) haround
    (Or.inl hnone) hlink hexpected)
  cases (heq ▸ hnone).symm.trans h.stands

/-- **A store is there or is made**, where there is room for it. -/
theorem Settled.store (h : Settled workspace root w.disk) (hroomy : Roomy root) (store : Store)
    (hstore : store ≠ .rawProfiles) : ∃ disk,
      Ends (workspace.store store) w (.ok (pathOf (store.directory :: root))) { w with disk } ∧
        Settled workspace root disk ∧ disk.node? (store.directory :: root) = some .directory := by
  obtain ⟨disk, hend⟩ := h.toTidy.ends_store (hroomy.store store)
    ((h.expected _).store store hstore rfl)
  have haltered := Alters.of_tidy (alters_managed_store hstore (expected_store store) _ _ _ hend)
    h.toTidy
  exact ⟨disk, hend, settled_of_altered h haltered,
    (h.stands_of_store (h.noLink _ (managed_store hstore)) hend).2.1⟩

/-- A store that stands need not be made. -/
lemma Settled.ends_makeDirectories (h : Settled workspace root disk) (hroomy : Roomy root)
    {store : Store} (hstore : store ≠ .rawProfiles)
    (hstands : disk.node? (store.directory :: root) = some .directory) :
    Ends (makeDirectories (pathOf (store.directory :: root))) disk (.ok ()) disk := by
  have hmake := acts_makeDirectories _ _ disk (h.entry_managed hstore)
  unfold Effect.within at hmake
  rwa [if_neg (hroomy.store _), hstands] at hmake

/-! ## Merging -/

section Merging

variable {group : Group} {name made : String}

/-- The place of a profile is an entry of the merged store. -/
lemma Settled.entry_profile (h : Settled workspace root disk)
    (hstands : disk.node? (Store.mergedProfiles.directory :: root) = some .directory)
    (hmade : Artifact.directoryName name = .ok made) :
    disk.Entry (made ++ mergedSuffix) (Store.mergedProfiles.directory :: root) := by
  refine h.entry_below (by decide) hstands (isName_profile hmade) ?_
  rw [String.toList_append, List.mem_append, not_or]
  exact ⟨Artifact.not_mem_directoryName hmade (by decide), by decide⟩

/-- A profile can be removed. -/
lemma Settled.removes (h : Settled workspace root disk)
    (hstands : disk.node? (Store.mergedProfiles.directory :: root) = some .directory)
    (hplace : Placeable root name made) : ∃ disk',
      Ends (removeIfThere (pathOf ((made ++ mergedSuffix) :: Store.mergedProfiles.directory ::
        root))) disk (.ok ()) disk' := by
  have hremove := acts_removeIfThere _ _ disk (h.entry_profile hstands hplace.named)
  unfold Effect.within at hremove
  rw [if_neg hplace.profile] at hremove
  have hnode := (h.expected _).profile (made ++ mergedSuffix) rfl
  revert hremove hnode
  generalize disk.node? ((made ++ mergedSuffix) :: Store.mergedProfiles.directory :: root) = node
  rcases node with - | ⟨- | - | -⟩
  · exact fun hremove _ => ⟨_, hremove⟩
  · exact fun _ hnode => absurd rfl hnode
  · exact fun hremove _ => ⟨_, hremove⟩
  · exact fun hremove _ => ⟨_, hremove⟩

/-- The place of the profile of a group. -/
lemma Settled.profile_place (h : Settled workspace root disk)
    (hmade : Artifact.directoryName name = .ok made) :
    Inside root ((made ++ mergedSuffix) :: Store.mergedProfiles.directory :: root) ∧
      ∀ n ∈ (made ++ mergedSuffix) :: Store.mergedProfiles.directory :: root,
        Path.IsName n :=
  ⟨inside_store _ (by decide),
    List.forall_mem_cons.2 ⟨isName_profile hmade, h.isName .mergedProfiles⟩⟩

/-- What the path of a profile leads to is what is in its place. -/
lemma Settled.content?_profile (h : Settled workspace root disk)
    (hplace : Placeable root name made) {data : Text.Octets} :
    disk.content? (pathOf ((made ++ mergedSuffix) :: Store.mergedProfiles.directory :: root)) =
        some data ↔
      ∃ executable, disk.node? ((made ++ mergedSuffix) :: Store.mergedProfiles.directory :: root) =
        some (.file data executable) := by
  obtain ⟨hinside, hnames⟩ := h.profile_place hplace.named
  rw [content?_eq_some]
  constructor
  · rintro ⟨location, executable, hfind, hnode⟩
    obtain rfl := h.eq_of_find hinside.managed hnames hfind
    exact ⟨executable, hnode⟩
  · rintro ⟨executable, hnode⟩
    have hthere : disk.node? ((made ++ mergedSuffix) :: Store.mergedProfiles.directory :: root) ≠
        none := by
      simp [hnode]
    have hstands : disk.node? (Store.mergedProfiles.directory :: root) = some .directory :=
      h.tree.directory_above hthere (List.suffix_cons _ _) (List.cons_ne_self _ _).symm
    exact ⟨_, executable, (find_at (h.entry_profile hstands hplace.named) true).trans
      (if_neg hplace.profile), hnode⟩

/-- The outcome of a group with a profile. -/
def IsOutcome (group : Group) (profile : Path) (outcome : MergeOutcome) : Prop :=
  outcome = mergedOutcome group profile ∨ ∃ failure, outcome = failedMerge group profile failure

variable (horderly : tools.Orderly) (hneat : tools.Neat)
  (htools : tools.Merges pipeline.toolchain.llvmProfdata extra) (hroomy : Roomy root)
  (hplace : Placeable root group.name made) (hsamples : group.samples ≠ [])

include horderly hneat htools hroomy hplace hsamples

/-- Whatever the tool answers, there is an outcome. -/
lemma Settled.attempt (h : Settled pipeline.workspace root w.disk)
    (hstands : w.disk.node? (Store.mergedProfiles.directory :: root) = some .directory)
    {r : Except Fault MergeOutcome} (hend : Ends (pipeline.attempt tools extra group
      (pathOf ((made ++ mergedSuffix) :: Store.mergedProfiles.directory :: root))) w r w') :
    ∃ outcome, r = .ok outcome ∧ IsOutcome group (pathOf ((made ++ mergedSuffix) ::
      Store.mergedProfiles.directory :: root)) outcome := by
  obtain ⟨hinside, hnames⟩ := h.profile_place hplace.named
  rcases attempt_ends hend with ⟨_, t, rfl, -⟩ | ⟨failure, t, hfailed, -, hhandled⟩ |
    ⟨fault, -, hother, hfailed⟩
  · exact ⟨_, rfl, Or.inl rfl⟩
  · have haltered := Alters.of_store (alters_mergeProfiles allows_expected hneat htools hinside
      (parent_pathOf _ _) hnames (fun node => allows_expected.profile _ _ node hplace.named)
      _ _ _ _ hfailed) h.toTidy hstands
    rcases hhandled with ⟨rfl, -⟩ | ⟨error, -, hremove⟩
    · exact ⟨_, rfl, Or.inr ⟨failure, rfl⟩⟩
    · obtain ⟨after, hremoved⟩ :=
        (settled_of_altered h haltered).removes (haltered.stands hstands) hplace
      cases (hremove.unique hremoved).1
  · rcases mergeProfiles_ends hsamples hfailed with ⟨error, -, -, hmake⟩ | ⟨called, -, -, -, hr⟩
    · -- the store stands, so it need not be made
      rw [parent_pathOf] at hmake
      cases (hmake.unique (h.ends_makeDirectories hroomy (by decide) hstands)).1
    · obtain ⟨failure, rfl⟩ := horderly _ _ _ _ (map_eq_error_iff.1 hr.symm)
      exact absurd rfl (hother failure)

/-- **A group that can be placed is merged**, whatever the tool answers. -/
theorem Settled.mergeGroup (h : Settled pipeline.workspace root w.disk) : ∃ outcome w',
    Ends (pipeline.mergeGroup tools extra group) w (.ok outcome) w' ∧
      IsOutcome group (pathOf ((made ++ mergedSuffix) :: Store.mergedProfiles.directory :: root))
        outcome ∧ Settled pipeline.workspace root w'.disk := by
  obtain ⟨r, w', hend⟩ := exists_ends (pipeline.mergeGroup tools extra group) w
  have hsettled := settled_of_altered h (Alters.of_tidy (alters_mergeGroup allows_expected hneat
    htools group _ _ _ hend) h.toTidy)
  obtain ⟨stored, hstore, hsettled₁, hstands₁⟩ := h.store hroomy .mergedProfiles
    (by decide)
  obtain ⟨cleared, hremove⟩ := hsettled₁.removes hstands₁ hplace
  obtain ⟨hinside, hnames⟩ := h.profile_place hplace.named
  have hprofile : Ends (pipeline.workspace.mergedProfile group.name) w
      (.ok (pathOf ((made ++ mergedSuffix) :: Store.mergedProfiles.directory :: root)))
      { w with disk := stored } := by
    refine hstore.bind ((ends_directoryName_ok.2 ⟨hplace.named, rfl⟩).bind ?_)
    rw [child_pathOf _ (isName_profile hplace.named)]
    exact ends_pure.2 ⟨rfl, rfl⟩
  obtain ⟨t, hprepare, rfl, -⟩ := ends_prepare hprofile hremove
  have haltered := Alters.of_store (alters_removeIfThere hinside hnames
    (allows_expected.profile _ _ none hplace.named (Or.inl rfl)) _ _ _ hremove) hsettled₁.toTidy
    hstands₁
  rw [mergeGroup_eq] at hend
  rcases ends_bind.1 hend with ⟨_, u, hprepared, hattempt⟩ | ⟨_, hprepared, -⟩
  · obtain ⟨hplaced, rfl⟩ := hprepared.unique hprepare
    obtain rfl := Except.ok.inj hplaced
    obtain ⟨outcome, rfl, houtcome⟩ := (settled_of_altered hsettled₁ haltered).attempt horderly
      hneat htools hroomy hplace hsamples (haltered.stands hstands₁) hattempt
    refine ⟨outcome, w', ?_, houtcome, hsettled⟩
    rw [mergeGroup_eq]
    exact hend
  · cases (hprepared.unique hprepare).1

end Merging

/-! ## Reporting -/

section Reporting

variable {merged : MergeOutcome} {name made : String} {store : Store}

/-- The place of an object with the name of a group. -/
lemma Placeable.isName_object (h : Placeable root name made) :
    Path.IsName (name ++ objectSuffix) := by
  refine Path.isName_of_lastChar? (c := 'o') ?_ (lastChar?_append name (by decide)) (by decide)
  rw [String.toList_append, List.mem_append, not_or]
  exact ⟨h.isName.not_mem, by decide⟩

/-- A store that objects are looked for in can be read. -/
lemma Settled.readable (h : Settled workspace root disk) (hroomy : Roomy root)
    (hstore : store ∈ searched)
    (hstands : disk.node? (store.directory :: root) = some .directory) :
    disk.Readable (store.directory :: root) := by
  have hmanaged := ne_rawProfiles_of_searched hstore
  have hentry := h.entry_managed hmanaged
  refine ⟨hentry.clean, (find_at hentry true).trans (if_neg (hroomy.store store)), hstands,
    fun name hthere => ?_⟩
  obtain ⟨hname, hnul, -⟩ := (h.expected _).object name store hstore rfl hthere
  exact h.entry_below hmanaged hstands hname hnul

/-- There is an object in a store, or there is none. -/
lemma Settled.objectIn (h : Settled workspace root disk) (hroomy : Roomy root)
    (hplace : Placeable root name made) (hstore : store ∈ searched)
    (hstands : disk.node? (store.directory :: root) = some .directory) :
    ∃ found, Ends (objectIn name (pathOf (store.directory :: root))) disk (.ok found) disk := by
  have hreadable := h.readable hroomy hstore hstands
  have hmanaged := ne_rawProfiles_of_searched hstore
  have hnul : '\x00' ∉ (name ++ objectSuffix).toList := by
    rw [String.toList_append, List.mem_append, not_or]
    exact ⟨hplace.clean, by decide⟩
  have hexact := ends_isFile_at (h.entry_below hmanaged hstands hplace.isName_object hnul)
    (hplace.object store hstore)
  unfold Pipeline.objectIn
  rw [child_pathOf _ hplace.isName_object]
  generalize disk.holdsFile (store.directory :: root) (name ++ objectSuffix) = there at hexact
  cases there with
  | true => exact ⟨_, hexact.bind (ends_pure.2 ⟨rfl, rfl⟩)⟩
  | false =>
    have hentries := ends_entriesOf_at hreadable.clean hreadable.leads hreadable.stands
      hreadable.isName
    obtain ⟨found, hfirst⟩ := ends_firstFile_of_find
      (fun object => Artifact.logicalKey object.stem = Artifact.logicalKey name)
      (((disk.namesIn (store.directory :: root)).map fun other =>
        pathOf (other :: store.directory :: root)).filter fun path =>
          hasSuffix objectSuffix path.name) fun path hpath => by
        obtain ⟨other, hother, rfl⟩ := List.mem_map.1 (List.mem_of_mem_filter hpath)
        have hthere := node?_of_mem_namesIn hother
        have hshort := ((h.expected _).object other store hstore rfl hthere).2.2
        rw [find_at (hreadable.entry other hthere), if_neg hshort]
        simp
    exact ⟨found, hexact.bind (hentries.bind hfirst)⟩

variable (hroomy : Roomy root) (hplace : Placeable root name made)

include hroomy hplace

/-- **An object is found or not**, but the search does not fail. -/
theorem Settled.findObject (h : Settled pipeline.workspace root w.disk) : ∃ found disk,
    Ends (pipeline.findObject name) w (.ok found) { w with disk } ∧
      Settled pipeline.workspace root disk := by
  obtain ⟨disk₁, hstaging, hsettled₁, hstands₁⟩ := h.store hroomy .staging (by decide)
  obtain ⟨disk₂, hobjects, hsettled₂, hstands₂⟩ := Settled.store (w := { w with disk := disk₁ })
    hsettled₁ hroomy .objects (by decide)
  have hstands₁ : disk₂.node? (Store.staging.directory :: root) = some .directory :=
    (respects_store _ _ _ _ hobjects).node?_eq hstands₁
  obtain ⟨first, hfirst⟩ := hsettled₂.objectIn hroomy hplace (by decide) hstands₁
  obtain ⟨second, hsecond⟩ := hsettled₂.objectIn hroomy hplace (by decide) hstands₂
  have hlook {found : Option Path} {directory : Path}
      (hobject : Ends (Pipeline.objectIn name directory) disk₂ (.ok found) disk₂) :
      Ends (onDisk (Pipeline.objectIn name directory)) { w with disk := disk₂ } (.ok found)
        { w with disk := disk₂ } :=
    ends_onDisk_ok.2 ⟨_, hobject, rfl⟩
  unfold Pipeline.findObject
  cases first with
  | some object =>
    exact ⟨some object, disk₂, hstaging.bind (hobjects.bind ((hlook hfirst).bind
      (ends_pure.2 ⟨rfl, rfl⟩))), hsettled₂⟩
  | none =>
    exact ⟨second, disk₂, hstaging.bind (hobjects.bind ((hlook hfirst).bind (hlook hsecond))),
      hsettled₂⟩

/-- There is a place for the report. -/
lemma Settled.reportDirectory (h : Settled workspace root w.disk) : ∃ disk,
    Ends (workspace.reportDirectory name) w
      (.ok (pathOf (made :: Store.reports.directory :: root))) { w with disk } := by
  obtain ⟨disk, hstore, -⟩ := h.store hroomy .reports (by decide)
  refine ⟨disk, hstore.bind ((ends_directoryName_ok.2 ⟨hplace.named, rfl⟩).bind ?_)⟩
  rw [child_pathOf _ (Artifact.isName_directoryName hplace.named)]
  exact ends_pure.2 ⟨rfl, rfl⟩

omit hplace in
/-- **A binary that can be placed is reported**, whatever the tool answers. -/
theorem Settled.reportOne (horderly : tools.Orderly) (hneat : tools.Neat)
    (htools : tools.Renders pipeline.toolchain.llvmCov extra)
    (hplace : Placeable root merged.name.lossy made)
    (h : Settled pipeline.workspace root w.disk) : ∃ outcome w',
    Ends (pipeline.reportOne tools extra merged) w (.ok outcome) w' ∧
      pipeline.Reports w merged outcome w' ∧ Settled pipeline.workspace root w'.disk := by
  obtain ⟨r, w', hend⟩ := exists_ends (pipeline.reportOne tools extra merged) w
  have htree (other : String) (hother : Artifact.directoryName merged.name.lossy = .ok other) :
      ∀ place node, other :: Store.reports.directory :: root <:+ place →
        Expected root place node := by
    obtain rfl := Except.ok.inj (hother.symm.trans hplace.named)
    exact expected_tree hplace.tree
  have hsettled := settled_of_altered h (Alters.of_tidy (alters_reportOne allows_expected hneat
    htools htree _ _ _ hend) h.toTidy)
  obtain ⟨found, disk, hfound, hsettled'⟩ := h.findObject hroomy hplace
  rcases reportOne_ends horderly hend with ⟨outcome, rfl, hreports⟩ | ⟨fault, rfl, hstops⟩
  · exact ⟨outcome, w', hend, hreports, hsettled⟩
  · cases hstops with
    | unsearched hother => cases (hother.unique hfound).1
    | unplaced hother hdirectory =>
      obtain ⟨-, rfl⟩ := hother.unique hfound
      obtain ⟨after, hreached⟩ := Settled.reportDirectory (w := { w with disk }) hroomy hplace
        hsettled'
      cases (hdirectory.unique hreached).1

end Reporting

end WasmCoverage.Pipeline
