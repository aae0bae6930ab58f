import WasmCoverage.Proofs.Artifact.Name
import WasmCoverage.Proofs.Disk.Listing
import WasmCoverage.Proofs.Disk.RealPath
import WasmCoverage.Workspace

/-!
# Stores

A store is a directory under the root of its workspace.  Asking for it makes it if need be
(`store_spec`), and once it is there asking for it again changes nothing.

A workspace is **rooted** if its root is the path of a directory as it stands on the disk, with no
link on the way.  A workspace that was opened is rooted (`rooted_open`).  Then a store is one entry
of the root (`rooted_store`), and the root stays what it is.

What is stored in the raw store is found there by the name of its directory alone:
`directoryName_of_storeSample` says which one that is for a sample of a logical name.
-/

namespace WasmCoverage.Workspace

variable {workspace : Workspace} {store : Store} {path : Path} {w w' : World}

lemma isName_directory (store : Store) : Path.IsName store.directory := by
  cases store <;> decide

/-- **A store that was asked for** is a directory under the root, and nothing but directories is
new. -/
theorem store_spec (h : Ends (workspace.store store) w (.ok path) w') : ∃ root disk,
    workspace.bound? = some root ∧ path = root.child store.directory ∧
      Ends (Disk.makeDirectories path) w.disk (.ok ()) disk ∧ w' = { w with disk } := by
  obtain ⟨root, t, hroot, hrest⟩ := ends_bind_ok.1 h
  obtain ⟨⟨⟩, t', hmade, hlast⟩ := ends_bind_ok.1 hrest
  obtain ⟨hpath, rfl⟩ := ends_pure.1 hlast
  obtain rfl := Except.ok.inj hpath
  have hbound : workspace.bound? = some root ∧ t = w := by
    unfold Workspace.root at hroot
    split at hroot
    · next bound hbound =>
        obtain ⟨heq, rfl⟩ := ends_pure.1 hroot
        obtain rfl := Except.ok.inj heq
        exact ⟨hbound, rfl⟩
    · cases (ends_throw.1 hroot).1
  obtain ⟨hbound, rfl⟩ := hbound
  obtain ⟨disk, haction, rfl⟩ := ends_onDiskOr_ok.1 hmade
  exact ⟨root, disk, hbound, rfl, haction, rfl⟩

/-- The path of a store is that of an entry of the root. -/
lemma path_of_store {root : Location} (hbound : workspace.bound? = some (Disk.pathOf root))
    (h : Ends (workspace.store store) w (.ok path) w') :
    path = Disk.pathOf (store.directory :: root) := by
  obtain ⟨base, -, hbase, rfl, -⟩ := store_spec h
  obtain rfl := Option.some.inj (hbound.symm.trans hbase)
  exact Disk.child_pathOf root (isName_directory store)

lemma hasDirectory_store (h : Ends (workspace.store store) w (.ok path) w') :
    Disk.hasNul path = false ∧ w'.disk.HasDirectory path := by
  obtain ⟨root, disk, -, rfl, hmade, rfl⟩ := store_spec h
  refine Disk.hasDirectory_makeDirectories ?_ hmade
  simp [Path.child_of_isName _ (isName_directory store)]

lemma ends_root {root : Path} (h : workspace.bound? = some root) :
    Ends workspace.root w (.ok root) w := by
  rw [Workspace.root, h]
  exact ends_pure.2 ⟨rfl, rfl⟩

lemma respects_root {R : World → World → Prop} [Std.Refl R] : Respects R workspace.root := by
  unfold Workspace.root
  split
  · exact Respects.pure _
  · exact Respects.throw _

/-- Asking for a store makes directories, and does nothing else. -/
lemma respects_store (store : Store) :
    Respects (OnDisk Disk.Grows) (workspace.store store) :=
  respects_root.bind fun _ => Disk.respects_makeDirectories.onDiskOr.bind fun _ => Respects.pure _

/-- **A store that was asked for is there**, as long as directories and links are kept. -/
theorem store_again {u : World} (h : Ends (workspace.store store) w (.ok path) w')
    (hkeeps : Disk.Keeps w'.disk u.disk) : Ends (workspace.store store) u (.ok path) u := by
  obtain ⟨root, -, hbound, rfl, -, -⟩ := store_spec h
  obtain ⟨hnul, hdirectory⟩ := hasDirectory_store h
  have hmade := Disk.makeDirectories_of_hasDirectory hnul (hdirectory.keeps hkeeps)
  have hrun : Ends (onDiskOr (fun error => .workspace (.notMade (root.child store.directory) error))
      (Disk.makeDirectories (root.child store.directory))) u (.ok ()) u :=
    ends_onDiskOr_ok.2 ⟨u.disk, hmade, rfl⟩
  exact (ends_root hbound).bind (hrun.bind (ends_pure.2 ⟨rfl, rfl⟩))

/-- The directory name of a name that has one. -/
lemma ends_directoryName_ok {name made : String} : Ends (directoryName name) w (.ok made) w' ↔
    Artifact.directoryName name = .ok made ∧ w' = w := by
  unfold directoryName
  split
  · next found hfound => rw [ends_pure, hfound, Except.ok.injEq, Except.ok.injEq, eq_comm]
  · next fault hfault =>
      rw [hfault]
      constructor
      · intro h
        cases (ends_throw.1 h).1
      · rintro ⟨h, -⟩
        cases h

lemma respects_directoryName {R : World → World → Prop} [Std.Refl R] (name : String) :
    Respects R (directoryName name) := by
  unfold directoryName
  split
  · exact Respects.pure _
  · exact Respects.throw _

/-! ## Rooted workspaces -/

/-- The disk is a tree, and the root of the workspace a directory that its names lead to. -/
structure Rooted (workspace : Workspace) (root : Location) (disk : Disk) : Prop where
  bound : workspace.bound? = some (Disk.pathOf root)
  names : ∀ name ∈ root, Path.IsName name
  tree : disk.IsTree
  stands : disk.node? root = some .directory

variable {root : Location}

lemma Rooted.isName {disk : Disk} (h : workspace.Rooted root disk) (store : Store) :
    ∀ name ∈ store.directory :: root, Path.IsName name :=
  List.forall_mem_cons.2 ⟨isName_directory store, h.names⟩

/-- The path of a store can be read back from its text. -/
lemma Rooted.proper_store {disk : Disk} (h : workspace.Rooted root disk) (store : Store) :
    (Disk.pathOf (store.directory :: root)).Proper :=
  fun name hname => h.isName store name (List.mem_reverse.1 hname)

/-- The root stays if the disk stays a tree and the root a directory. -/
lemma Rooted.of_node? {disk disk' : Disk} (h : workspace.Rooted root disk) (htree : disk'.IsTree)
    (hroot : disk'.node? root = disk.node? root) : workspace.Rooted root disk' :=
  ⟨h.bound, h.names, htree, hroot.trans h.stands⟩

/-- **A workspace that was opened is rooted.** -/
theorem rooted_open {asked : Path} (hdisk : w.disk.Sound) (hasked : asked.Spelled)
    (h : Ends (open_ asked) w (.ok workspace) w') :
    ∃ root, workspace.Rooted root w'.disk ∧ w'.disk.Sound := by
  obtain ⟨real, w₁, hresolve, hrest⟩ := ends_bind_ok.1 h
  obtain ⟨disk₁, hfound, rfl⟩ := ends_onDisk_ok.1 hresolve
  obtain ⟨root, hreal, rfl, rfl⟩ := hdisk.real_resolve hasked hfound
  obtain ⟨⟨⟩, w₂, hmake, hlast⟩ := ends_bind_ok.1 hrest
  obtain ⟨disk₂, hmade, rfl⟩ := ends_onDiskOr_ok.1 hmake
  obtain ⟨hworkspace, rfl⟩ := ends_pure.1 hlast
  obtain rfl := Except.ok.inj hworkspace
  have hsound : disk₂.Sound := Disk.keepsSound_makeDirectories _ _ _ hmade hdisk
  exact ⟨root, ⟨rfl, hreal.names, hsound.tree, hreal.stands_of_makeDirectories hmade⟩, hsound⟩

/-- The store is made if nothing is there. -/
lemma disk_of_store (hroot : workspace.Rooted root w.disk)
    (h : Ends (workspace.store store) w (.ok path) w') :
    path = Disk.pathOf (store.directory :: root) ∧ w' = { w with
      disk := if w.disk.node? (store.directory :: root) = none
        then w.disk.put (store.directory :: root) .directory else w.disk } := by
  obtain ⟨rootPath, disk, hbound, rfl, hmade, rfl⟩ := store_spec h
  obtain rfl := Option.some.inj (hroot.bound.symm.trans hbound)
  rw [Disk.child_pathOf root (isName_directory store)] at hmade ⊢
  obtain ⟨-, rfl⟩ :=
    Disk.makeDirectories_entry (hroot.tree.stands hroot.stands) (hroot.isName store) hmade
  exact ⟨rfl, rfl⟩

/-- A directory that was made for a store is the store. -/
lemma ends_store_of_made {disk : Disk} (hbound : workspace.bound? = some (Disk.pathOf root))
    (h : Ends (Disk.makeDirectories (Disk.pathOf (store.directory :: root))) w.disk (.ok ())
      disk) :
    Ends (workspace.store store) w (.ok (Disk.pathOf (store.directory :: root)))
      { w with disk } := by
  refine (ends_root hbound).bind ?_
  rw [Disk.child_pathOf _ (isName_directory store)]
  exact (ends_onDiskOr_ok.2 ⟨disk, h, rfl⟩).bind (ends_pure.2 ⟨rfl, rfl⟩)

/-- **A store of a rooted workspace** is the entry of the root with its name.  It is made if
nothing is there, and the disk stays as it is if something is. -/
theorem rooted_store (hroot : workspace.Rooted root w.disk)
    (h : Ends (workspace.store store) w (.ok path) w') :
    path = Disk.pathOf (store.directory :: root) ∧ workspace.Rooted root w'.disk ∧
      (w.disk.node? (store.directory :: root) ≠ none → w' = w) := by
  obtain ⟨rfl, rfl⟩ := disk_of_store hroot h
  refine ⟨rfl, ?_, fun hthere => by rw [if_neg hthere]⟩
  split
  · next hnone =>
      refine hroot.of_node? (hroot.tree.put hroot.stands hnone) ?_
      exact Disk.node?_put_of_ne _ _ (List.cons_ne_self _ _).symm
  · exact hroot

/-! ## Samples -/

section Characters

variable {c : Char} (hdigit : c.isDigit = false) (hhex : ∀ d < 16, Text.hexDigit d ≠ c)

include hdigit in
lemma not_mem_toDigits (n : Nat) : c ∉ Nat.toDigits 10 n := fun h =>
  absurd (Nat.isDigit_of_mem_toDigits (by decide) (by decide) h) (by simp [hdigit])

include hdigit in
lemma not_mem_padded (width n : Nat) : c ∉ (Moment.padded width n).toList := by
  rw [Moment.padded, String.toList_ofList, List.mem_append, not_or]
  refine ⟨fun h => ?_, not_mem_toDigits hdigit n⟩
  obtain rfl := List.eq_of_mem_replicate h
  exact absurd hdigit (by decide)

include hhex in
lemma not_mem_hexDigits : ∀ width n, c ∉ Text.hexDigits width n
  | 0, _ => List.not_mem_nil
  | width + 1, n => by
      rw [Text.hexDigits, List.mem_append, List.mem_singleton, not_or]
      exact ⟨not_mem_hexDigits width _, (hhex _ (Nat.mod_lt _ (by decide))).symm⟩

include hdigit hhex in
/-- What is no digit and no dash is not in the name of a sample. -/
lemma not_mem_sample (hdash : c ≠ '-') (hsuffix : c ∉ rawSuffix.toList) (moment : Moment)
    (number : Nat) : c ∉ (moment.sampleId number ++ rawSuffix).toList := by
  simp [Moment.sampleId, Moment.stamp, Moment.uniquePart, not_mem_toDigits hdigit,
    not_mem_padded hdigit, not_mem_hexDigits hhex, hdash, hsuffix]

end Characters

/-- The name of the file of a sample. -/
def IsSample (file : String) : Prop :=
  ∃ (moment : Moment) (number : Nat), file = moment.sampleId number ++ rawSuffix

lemma IsSample.hasSuffix {file : String} (h : IsSample file) :
    Disk.hasSuffix rawSuffix file = true := by
  obtain ⟨moment, number, rfl⟩ := h
  simp [Disk.hasSuffix]

lemma IsSample.clean {file : String} (h : IsSample file) : '\x00' ∉ file.toList := by
  obtain ⟨moment, number, rfl⟩ := h
  exact not_mem_sample (by decide) (by decide) (by decide) (by decide) _ _

/-- An identifier with the suffix of samples is a name. -/
lemma isName_sample (moment : Moment) (number : Nat) :
    Path.IsName (moment.sampleId number ++ rawSuffix) := by
  refine Path.isName_of_lastChar? (c := 'w') ?_ ?_ (by decide)
  · exact not_mem_sample (by decide) (by decide) (by decide) (by decide) _ _
  · rw [lastChar?_append _ (by decide)]
    decide

lemma IsSample.isName {file : String} (h : IsSample file) : Path.IsName file := by
  obtain ⟨moment, number, rfl⟩ := h
  exact isName_sample moment number

/-- **A sample is stored** in the directory with the name made of its logical name. -/
theorem directoryName_of_storeSample {name : String} {data : Text.Octets}
    (h : Ends (workspace.storeSample name data) w (.ok path) w') :
    Artifact.directoryName name = .ok path.parent.name := by
  obtain ⟨fresh, t, hnew, hrest⟩ := ends_bind_ok.1 h
  obtain ⟨_, t', -, hlast⟩ := ends_bind_ok.1 hrest
  obtain rfl := Except.ok.inj (ends_pure.1 hlast).1
  obtain ⟨directory, t, hdirectory, hrest⟩ := ends_bind_ok.1 hnew
  obtain ⟨number, t', -, hrest⟩ := ends_bind_ok.1 hrest
  obtain ⟨world, t'', -, hlast⟩ := ends_bind_ok.1 hrest
  obtain rfl := Except.ok.inj (ends_pure.1 hlast).1
  obtain ⟨samples, t, -, hrest⟩ := ends_bind_ok.1 hdirectory
  obtain ⟨made, t', hmade, hrest⟩ := ends_bind_ok.1 hrest
  obtain ⟨_, t'', -, hlast⟩ := ends_bind_ok.1 hrest
  obtain rfl := Except.ok.inj (ends_pure.1 hlast).1
  obtain ⟨hname, -⟩ := ends_directoryName_ok.1 hmade
  rw [hname, Path.parent_child _ (isName_sample _ _),
    Path.name_child _ (Artifact.isName_directoryName hname)]

/-! ## Groups -/

lemma respects_groupsAmong : ∀ entries : List Path, Respects Eq (groupsAmong entries)
  | [] => Respects.pure _
  | entry :: rest => by
      refine (Disk.respects_leadsTo _).bind fun found => ?_
      split
      · refine (Disk.respects_filesWithSuffix _).bind fun samples => ?_
        exact (respects_groupsAmong rest).bind fun others => Respects.pure _
      · exact respects_groupsAmong rest

/-- A directory with samples is a group. -/
lemma ends_groupsAmong_cons {disk : Disk} {entry : Path} {rest samples : List Path}
    {others : List Group} (hdir : Ends (Disk.isDirectory entry) disk (.ok true) disk)
    (hsamples : Ends (Disk.filesWithSuffix entry rawSuffix) disk (.ok samples) disk)
    (hne : samples ≠ []) (hrest : Ends (groupsAmong rest) disk (.ok others) disk) :
    Ends (groupsAmong (entry :: rest)) disk (.ok (⟨entry.name, samples⟩ :: others)) disk := by
  refine hdir.bind (hsamples.bind (hrest.bind (ends_pure.2 ⟨?_, rfl⟩)))
  rw [if_neg (by simpa using hne)]

section Lists

open WasmCoverage.Disk

/-- A directory stands where its names say, and the names of its entries are these, in order. -/
@[mk_iff]
structure Lists (disk : Disk) (location : Location) (names : List String) : Prop where
  clean : hasNul (pathOf location) = false
  leads : disk.find (pathOf location) true = .ok location
  stands : disk.node? location = some .directory
  listed : (disk.children location).map Prod.fst = names
  isName : ∀ name ∈ names, Path.IsName name
  sorted : (names.map fun name => pathOf (name :: location)).Pairwise fun a b => a.before b

instance (disk : Disk) (location : Location) (names : List String) :
    Decidable (Lists disk location names) :=
  decidable_of_iff' _ (lists_iff disk location names)

lemma Lists.paths {disk : Disk} {location : Location} {names : List String}
    (h : Lists disk location names) :
    (disk.children location).map (fun entry => (pathOf location).child entry.1) =
      names.map fun name => pathOf (name :: location) := by
  rw [← h.listed, List.map_map]
  refine List.map_congr_left fun entry hentry => Disk.child_pathOf _ (h.isName _ ?_)
  exact h.listed ▸ List.mem_map_of_mem hentry

/-- **Directories of one sample each are groups.** -/
theorem ends_groups_of_lists {location : Location} {names : List String} {sample : String}
    (hstore : Ends (workspace.store .rawProfiles) w (.ok (pathOf location)) w)
    (hlists : Lists w.disk location names) (hsuffix : hasSuffix rawSuffix sample = true)
    (hgroups : ∀ name ∈ names, Lists w.disk (name :: location) [sample] ∧
      hasNul (pathOf (sample :: name :: location)) = false ∧
      w.disk.content? (pathOf (sample :: name :: location)) ≠ none) :
    Ends workspace.groups w
      (.ok (names.map fun name => ⟨name, [pathOf (sample :: name :: location)]⟩)) w := by
  have hentries : Ends (entriesOf (pathOf location)) w.disk
      (.ok (names.map fun name => pathOf (name :: location))) w.disk := by
    refine ends_entriesOf_ok.2
      ⟨location, ⟨hlists.clean, hlists.leads⟩, hlists.stands, ?_, rfl⟩
    rw [hlists.paths, Path.sort, List.mergeSort_of_pairwise hlists.sorted]
  have hall : ∀ {names' : List String}, names' ⊆ names →
      Ends (groupsAmong (names'.map fun name => pathOf (name :: location))) w.disk
        (.ok (names'.map fun name => ⟨name, [pathOf (sample :: name :: location)]⟩)) w.disk := by
    intro names' hsubset
    induction names' with
    | nil => exact ends_pure.2 ⟨rfl, rfl⟩
    | cons name rest ih =>
        rw [List.cons_subset] at hsubset
        obtain ⟨hinner, hclean, hcontent⟩ := hgroups name hsubset.1
        obtain ⟨data, hdata⟩ := Option.ne_none_iff_exists'.1 hcontent
        have hname : (pathOf (name :: location)).name = name := by simp [pathOf, Path.name]
        have hsample : (pathOf (sample :: name :: location)).name = sample := by
          simp [pathOf, Path.name]
        have hdirectory : Ends (isDirectory (pathOf (name :: location))) w.disk (.ok true) w.disk :=
          ends_isDirectory_true.2 ⟨⟨hinner.clean, _, hinner.leads, hinner.stands⟩, rfl⟩
        have hfiles : Ends (filesAmong [pathOf (sample :: name :: location)]) w.disk
            (.ok [pathOf (sample :: name :: location)]) w.disk :=
          (ends_isFile_true.2 ⟨⟨hclean, data, hdata⟩, rfl⟩).bind
            ((ends_pure.2 ⟨rfl, rfl⟩).bind (ends_pure.2 ⟨rfl, rfl⟩))
        have hsamples : Ends (filesWithSuffix (pathOf (name :: location)) rawSuffix) w.disk
            (.ok [pathOf (sample :: name :: location)]) w.disk := by
          refine ends_filesWithSuffix _ ⟨hinner.clean, hinner.leads⟩ hinner.stands ?_ ?_
          · rw [hinner.paths]
            exact hinner.sorted
          · rw [hinner.paths, List.map_singleton, List.filter_cons_of_pos (by rwa [hsample]),
              List.filter_nil]
            exact hfiles
        have hcons :=
          ends_groupsAmong_cons hdirectory hsamples (List.cons_ne_nil _ _) (ih hsubset.2)
        rwa [hname] at hcons
  exact hstore.bind (ends_onDisk_ok.2 ⟨w.disk, hentries.bind (hall (List.Subset.refl _)), rfl⟩)

end Lists

/-- Looking for groups makes the store of raw samples and changes nothing else. -/
lemma store_of_groups {groups : List Group} (h : Ends workspace.groups w (.ok groups) w') :
    ∃ path, Ends (workspace.store .rawProfiles) w (.ok path) w' := by
  obtain ⟨samples, t, hstore, hrest⟩ := ends_bind_ok.1 h
  obtain ⟨disk, hlist, rfl⟩ := ends_onDisk_ok.1 hrest
  have hsame : t.disk = disk :=
    (Disk.respects_entriesOf.bind fun entries => respects_groupsAmong entries) _ _ _ hlist
  exact ⟨samples, by simpa [← hsame] using hstore⟩

/-- **The samples of a group** are the files of a directory, and there are some. -/
theorem mem_groupsAmong : ∀ {entries : List Path} {groups : List Group} {disk disk' : Disk},
    Ends (groupsAmong entries) disk (.ok groups) disk' → ∀ group ∈ groups, ∃ entry ∈ entries,
      Ends (Disk.filesWithSuffix entry rawSuffix) disk (.ok group.samples) disk ∧
        group.samples ≠ []
  | [], groups, _, _, h => by
      obtain rfl := Except.ok.inj (ends_pure.1 h).1
      simp
  | entry :: rest, groups, disk, _, h => by
      obtain ⟨found, d, hfound, hrest⟩ := ends_bind_ok.1 h
      obtain rfl : disk = d := Disk.respects_leadsTo _ _ _ _ hfound
      have hlater {others : List Group} {d' : Disk}
          (hothers : Ends (groupsAmong rest) disk (.ok others) d') (group : Group)
          (hgroup : group ∈ others) : ∃ place ∈ entry :: rest,
            Ends (Disk.filesWithSuffix place rawSuffix) disk (.ok group.samples) disk ∧
              group.samples ≠ [] := by
        obtain ⟨place, hplace, hfiles⟩ := mem_groupsAmong hothers group hgroup
        exact ⟨place, List.mem_cons_of_mem _ hplace, hfiles⟩
      split at hrest
      · obtain ⟨samples, d', hsamples, hrest⟩ := ends_bind_ok.1 hrest
        obtain rfl : disk = d' := Disk.respects_filesWithSuffix _ _ _ _ hsamples
        obtain ⟨others, d'', hothers, hlast⟩ := ends_bind_ok.1 hrest
        obtain rfl := Except.ok.inj (ends_pure.1 hlast).1
        split
        · exact hlater hothers
        · next hne =>
          rw [List.forall_mem_cons]
          exact ⟨⟨entry, List.mem_cons_self, hsamples, by simpa using hne⟩, hlater hothers⟩
      · exact hlater hrest

lemma mem_groups {groups : List Group} (h : Ends workspace.groups w (.ok groups) w')
    {group : Group} (hgroup : group ∈ groups) : ∃ entry,
      Ends (Disk.filesWithSuffix entry rawSuffix) w'.disk (.ok group.samples) w'.disk ∧
        group.samples ≠ [] := by
  obtain ⟨samples, t, -, hlist⟩ := ends_bind_ok.1 h
  obtain ⟨disk, haction, rfl⟩ := ends_onDisk_ok.1 hlist
  obtain ⟨entries, d, hentries, hamong⟩ := ends_bind_ok.1 haction
  obtain rfl := Disk.respects_entriesOf _ _ _ hentries
  obtain rfl := respects_groupsAmong _ _ _ _ hamong
  obtain ⟨entry, -, hfiles⟩ := mem_groupsAmong hamong group hgroup
  exact ⟨entry, hfiles⟩

lemma rooted_groups (hroot : workspace.Rooted root w.disk) {groups : List Group}
    (h : Ends workspace.groups w (.ok groups) w') : workspace.Rooted root w'.disk := by
  obtain ⟨samples, hstore⟩ := store_of_groups h
  exact (rooted_store hroot hstore).2.1

end WasmCoverage.Workspace
