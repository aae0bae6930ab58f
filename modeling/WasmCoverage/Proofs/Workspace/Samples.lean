import WasmCoverage.Proofs.Workspace.Tidy

/-!
# The raw store

What is in the raw store is what was stored there: `Holds` says that every sample is a file of its
own, in the directory made of its name, and that nothing else is there but such directories.  It is
an invariant.  Storing a sample adds that sample, or nothing if it is refused (`storeSample_spec`),
and what is done outside of the raw store does not matter to it (`Holds.altered`).

As long as it holds the groups are the samples, sorted, and each is there once (`Holds.groups`).
-/

namespace WasmCoverage.Workspace

open WasmCoverage.Disk WasmCoverage.Text

/-- The place of the raw store. -/
abbrev rawStore (root : Location) : Location :=
  Store.rawProfiles.directory :: root

/-- A raw sample that was stored: for which name, where, and its data. -/
structure Sample where
  name : String
  path : Path
  data : Octets
  deriving DecidableEq

/-- A sample is where it was stored, as a file in the directory made of its name. -/
structure Shelved (root : Location) (disk : Disk) (sample : Sample) (made file : String) :
    Prop where
  named : Artifact.directoryName sample.name = .ok made
  path : sample.path = pathOf (file :: made :: rawStore root)
  isSample : IsSample file
  short : ¬ TooLong (file :: made :: rawStore root)
  node : disk.node? (file :: made :: rawStore root) = some (.file sample.data false)

/-- The raw store holds the samples, in directories made of their names, and nothing else. -/
structure Holds (root : Location) (disk : Disk) (samples : List Sample) : Prop where
  store : disk.node? (rawStore root) = none ∨ disk.node? (rawStore root) = some .directory
  short : ¬ TooLong (rawStore root)
  shelved : ∀ sample ∈ samples, ∃ made file, Shelved root disk sample made file
  distinct : (samples.map Sample.path).Nodup
  directory : ∀ made, disk.node? (made :: rawStore root) ≠ none →
    disk.node? (made :: rawStore root) = some .directory ∧
      ¬ TooLong (made :: rawStore root) ∧ ∃ name, Artifact.directoryName name = .ok made
  sample : ∀ file made, disk.node? (file :: made :: rawStore root) ≠ none →
    ∃ sample ∈ samples, sample.path = pathOf (file :: made :: rawStore root)

variable {workspace : Workspace} {root : Location} {disk disk' : Disk} {samples : List Sample}
  {name made file : String} {data : Octets} {w w' : World}

lemma Holds.noLink_store (h : Holds root disk samples) : disk.NoLink (rawStore root) :=
  fun target hlink => by rcases h.store with hnode | hnode <;> cases hnode.symm.trans hlink

lemma Holds.noLink_directory (h : Holds root disk samples) (made : String) :
    disk.NoLink (made :: rawStore root) := fun target hlink => by
  cases (h.directory made (by simp [hlink])).1.symm.trans hlink

/-- What is found in a directory of samples is a sample. -/
lemma Holds.shelved_of_node? (h : Holds root disk samples)
    (hthere : disk.node? (file :: made :: rawStore root) ≠ none) :
    ∃ sample ∈ samples, Shelved root disk sample made file := by
  obtain ⟨sample, hmem, hpath⟩ := h.sample file made hthere
  obtain ⟨made', file', hshelved⟩ := h.shelved sample hmem
  have hplace := pathOf_inj (hpath.symm.trans hshelved.path)
  obtain ⟨rfl, rfl⟩ : file = file' ∧ made = made' := by simpa using hplace
  exact ⟨sample, hmem, hshelved⟩

lemma Holds.noLink_sample (h : Holds root disk samples) (file made : String) :
    disk.NoLink (file :: made :: rawStore root) := fun target hlink => by
  have hthere : disk.node? (file :: made :: rawStore root) ≠ none := by simp [hlink]
  obtain ⟨sample, -, hshelved⟩ := h.shelved_of_node? hthere
  cases hshelved.node.symm.trans hlink

/-! ## What else is done -/

/-- Nothing in the raw store is touched; the store itself may be made. -/
structure Apart (root location : Location) (node : Option Node) : Prop where
  outside : ¬ rawStore root <:+ location.tail
  store : location = rawStore root → node = some .directory

lemma not_suffix_tail {location : Location} (h : location.length ≤ root.length + 1) :
    ¬ rawStore root <:+ location.tail := fun hsuffix => by
  have hlength := hsuffix.length_le
  simp only [List.length_cons, List.length_tail] at hlength
  omega

/-- A store may be made. -/
lemma apart_store (store : Store) : Apart root (store.directory :: root) (some .directory) :=
  ⟨not_suffix_tail (by simp), fun _ => rfl⟩

/-- Whatever is in another store may be touched. -/
lemma apart_inside {location : Location} {store : Store} (hstore : store ≠ .rawProfiles)
    (hsuffix : store.directory :: root <:+ location.tail) (node : Option Node) :
    Apart root location node := by
  have hother : ¬ rawStore root <:+ location := fun hraw => by
    have hplace := hsuffix.trans (List.tail_suffix _)
    have hsame : store.directory :: root = rawStore root :=
      (List.suffix_or_suffix_of_suffix hplace hraw).elim (·.eq_of_length rfl)
        (·.eq_of_length rfl |>.symm)
    exact hstore (directory_inj (List.cons.inj hsame).1)
  refine ⟨fun hraw => hother (hraw.trans (List.tail_suffix _)), ?_⟩
  rintro rfl
  exact absurd (List.suffix_refl _) hother

/-- **Whatever is done outside of the raw store**, it holds what it held. -/
theorem Holds.altered (h : Holds root disk samples)
    (haltered : Altered workspace root (Apart root) disk disk') : Holds root disk' samples := by
  have hsame {location : Location} (hraw : rawStore root <:+ location.tail) :
      disk'.node? location = disk.node? location :=
    (haltered.node location).resolve_right fun hapart => hapart.outside hraw
  have hdirectory (made : String) :
      disk'.node? (made :: rawStore root) = disk.node? (made :: rawStore root) :=
    hsame (List.suffix_refl _)
  have hfile (file made : String) : disk'.node? (file :: made :: rawStore root) =
      disk.node? (file :: made :: rawStore root) :=
    hsame (List.suffix_cons _ _)
  refine ⟨?_, h.short, fun sample hmem => ?_, h.distinct, fun made hthere => ?_,
    fun file made hthere => h.sample file made (hfile file made ▸ hthere)⟩
  · rcases haltered.node (rawStore root) with heq | hapart
    · exact heq ▸ h.store
    · exact Or.inr (hapart.store rfl)
  · obtain ⟨made, file, hshelved⟩ := h.shelved sample hmem
    exact ⟨made, file, { hshelved with node := (hfile file made).trans hshelved.node }⟩
  · rw [hdirectory] at hthere ⊢
    exact h.directory made hthere

/-! ## Storing -/

/-- A directory is made. -/
lemma Holds.put_directory (h : Holds root disk samples)
    (hnone : disk.node? (made :: rawStore root) = none) (hshort : ¬ TooLong (made :: rawStore root))
    (hmade : Artifact.directoryName name = .ok made) :
    Holds root (disk.put (made :: rawStore root) .directory) samples := by
  have hnode {location : Location} (hne : location ≠ made :: rawStore root) :
      (disk.put (made :: rawStore root) .directory).node? location = disk.node? location := by
    rw [node?_put (List.cons_ne_nil _ _), if_neg hne]
  have hfile (file other : String) : file :: other :: rawStore root ≠ made :: rawStore root :=
    fun heq => by simpa using congrArg List.length heq
  refine ⟨?_, h.short, fun sample hmem => ?_, h.distinct, fun other hthere => ?_,
    fun file other hthere => h.sample file other (hnode (hfile file other) ▸ hthere)⟩
  · rw [hnode (List.cons_ne_self _ _).symm]
    exact h.store
  · obtain ⟨other, file, hshelved⟩ := h.shelved sample hmem
    exact ⟨other, file, { hshelved with node := (hnode (hfile file other)).trans hshelved.node }⟩
  · by_cases heq : other = made
    · subst heq
      exact ⟨by rw [node?_put (List.cons_ne_nil _ _), if_pos rfl], hshort, name, hmade⟩
    · rw [hnode (by simpa using heq)] at hthere ⊢
      exact h.directory other hthere

/-- A sample is added. -/
lemma Holds.put_sample (h : Holds root disk samples)
    (hnone : disk.node? (file :: made :: rawStore root) = none)
    (hshort : ¬ TooLong (file :: made :: rawStore root)) (hfile : IsSample file)
    (hmade : Artifact.directoryName name = .ok made) :
    Holds root (disk.put (file :: made :: rawStore root) (.file data false))
      (samples ++ [⟨name, pathOf (file :: made :: rawStore root), data⟩]) := by
  have hnode {location : Location} (hne : location ≠ file :: made :: rawStore root) :
      (disk.put (file :: made :: rawStore root) (.file data false)).node? location =
        disk.node? location := by
    rw [node?_put (List.cons_ne_nil _ _), if_neg hne]
  have hput : (disk.put (file :: made :: rawStore root) (.file data false)).node?
      (file :: made :: rawStore root) = some (.file data false) := by
    rw [node?_put (List.cons_ne_nil _ _), if_pos rfl]
  have hstore : rawStore root ≠ file :: made :: rawStore root :=
    fun heq => by simpa using congrArg List.length heq
  have hdirectory (other : String) : other :: rawStore root ≠ file :: made :: rawStore root :=
    fun heq => by simpa using congrArg List.length heq
  refine ⟨?_, h.short, fun sample hmem => ?_, ?_, fun other hthere => ?_,
    fun other directory hthere => ?_⟩
  · rw [hnode hstore]
    exact h.store
  · rcases List.mem_append.1 hmem with hold | hnew
    · obtain ⟨other, kept, hshelved⟩ := h.shelved sample hold
      refine ⟨other, kept, { hshelved with node := (hnode fun heq => ?_).trans hshelved.node }⟩
      cases hnone.symm.trans (heq ▸ hshelved.node)
    · obtain rfl := List.mem_singleton.1 hnew
      exact ⟨made, file, hmade, rfl, hfile, hshort, hput⟩
  · rw [List.map_append, List.nodup_append]
    refine ⟨h.distinct, List.nodup_singleton _, fun path hold other hnew heq => ?_⟩
    obtain ⟨sample, hmem, rfl⟩ := List.mem_map.1 hold
    obtain ⟨directory, kept, hshelved⟩ := h.shelved sample hmem
    have hplace := pathOf_inj ((hshelved.path.symm.trans heq).trans (by simpa using hnew))
    cases hnone.symm.trans (hplace ▸ hshelved.node)
  · rw [hnode (hdirectory other)] at hthere ⊢
    exact h.directory other hthere
  · by_cases heq : other :: directory :: rawStore root = file :: made :: rawStore root
    · exact ⟨_, List.mem_append_right _ (List.mem_singleton_self _), by rw [heq]⟩
    · obtain ⟨sample, hmem, hpath⟩ := h.sample other directory (hnode heq ▸ hthere)
      exact ⟨sample, List.mem_append_left _ hmem, hpath⟩

/-- The workspace is tidy, and its raw store holds the samples. -/
structure Stocked (workspace : Workspace) (root : Location) (disk : Disk) (samples : List Sample) :
    Prop where
  tidy : workspace.Tidy root disk
  holds : Holds root disk samples

lemma Stocked.altered (h : workspace.Stocked root disk samples)
    (haltered : Altered workspace root (Apart root) disk disk') :
    workspace.Stocked root disk' samples :=
  ⟨haltered.tidy, h.holds.altered haltered⟩

/-- A node is put in a place of the raw store where nothing is. -/
lemma Tidy.put_raw (h : workspace.Tidy root disk) {place : Location} {node : Node}
    (hplace : rawStore root <:+ place.tail) (haround : disk.node? place.tail = some .directory)
    (hnone : disk.node? place = none) (hlink : ∀ target, node ≠ .link target) :
    workspace.Tidy root (disk.put place node) := by
  have hlength := hplace.length_le
  simp only [List.length_cons, List.length_tail] at hlength
  have haltered : Altered workspace root (fun _ _ => True) disk (disk.put place node) := by
    refine h.altered_put ?_ (fun store heq => ?_) haround (Or.inl hnone) hlink trivial
    · rintro rfl
      omega
    · subst heq
      simp only [List.length_cons] at hlength
      omega
  exact haltered.tidy

section Entries

variable (h : workspace.Stocked root disk samples)

include h

lemma Stocked.entry_store : disk.Entry Store.rawProfiles.directory root :=
  h.tidy.entry_store h.holds.noLink_store

/-- A directory for samples is an entry of the raw store. -/
lemma Stocked.entry_directory (hstands : disk.node? (rawStore root) = some .directory)
    (hmade : Artifact.directoryName name = .ok made) : disk.Entry made (rawStore root) :=
  h.tidy.entry hstands (h.holds.noLink_directory made)
    (List.forall_mem_cons.2 ⟨Artifact.isName_directoryName hmade, h.tidy.isName .rawProfiles⟩)
    (hasNul_pathOf_cons.2 ⟨Artifact.not_mem_directoryName hmade (by decide), h.entry_store.clean⟩)

/-- A sample is an entry of such a directory. -/
lemma Stocked.entry_sample (hstands : disk.node? (made :: rawStore root) = some .directory)
    (hmade : Artifact.directoryName name = .ok made) (hfile : IsSample file) :
    disk.Entry file (made :: rawStore root) := by
  have hraw : disk.node? (rawStore root) = some .directory :=
    h.tidy.tree made _ (by simp [hstands])
  have hdirectory := h.entry_directory hraw hmade
  exact h.tidy.entry hstands (h.holds.noLink_sample file made)
    (List.forall_mem_cons.2 ⟨hfile.isName, hdirectory.names⟩)
    (hasNul_pathOf_cons.2 ⟨hfile.clean, hdirectory.clean⟩)

end Entries

section Storing

variable (h : workspace.Stocked root w.disk samples)

include h

/-- Asking for the raw store. -/
lemma Stocked.store {store : Store} {r : Except Fault Path}
    (hend : Ends (workspace.store store) w r w') : workspace.Stocked root w'.disk samples := by
  refine h.altered (h.tidy.altered_store ?_ hend fun _ => apart_store store)
  by_cases hraw : store = .rawProfiles
  · exact hraw ▸ h.holds.noLink_store
  · exact h.tidy.noLink _ (managed_store hraw)

/-- Making a directory for samples stores nothing. -/
lemma Stocked.makeDirectories {r : Except Disk.Error Unit}
    (hstands : w.disk.node? (rawStore root) = some .directory)
    (hmade : Artifact.directoryName name = .ok made)
    (hend : Ends (makeDirectories (pathOf (made :: rawStore root))) w.disk r disk) :
    workspace.Stocked root disk samples ∧
      (r = .ok () → disk.node? (made :: rawStore root) = some .directory) := by
  rcases (acts_makeDirectories made (rawStore root)).ends (h.entry_directory hstands hmade) hend
    with ⟨-, rfl, rfl⟩ | ⟨hshort, -, hdisk⟩
  · exact ⟨h, by simp⟩
  cases hnode : w.disk.node? (made :: rawStore root) with
  | none =>
    rw [hnode] at hdisk
    obtain rfl : disk = w.disk.put (made :: rawStore root) .directory := hdisk
    have hput : workspace.Tidy root (w.disk.put (made :: rawStore root) .directory) :=
      h.tidy.put_raw (List.suffix_refl _) hstands hnode (by simp)
    refine ⟨⟨hput, h.holds.put_directory hnode hshort hmade⟩, fun _ => ?_⟩
    rw [node?_put (List.cons_ne_nil _ _), if_pos rfl]
  | some node =>
    obtain ⟨hdir, -⟩ := h.holds.directory made (by simp [hnode])
    rw [hdir] at hdisk
    obtain rfl : disk = w.disk := hdisk
    exact ⟨h, fun _ => hdir⟩

/-- **The directory for the samples of a name** is made if need be. -/
theorem Stocked.sampleDirectory {r : Except Fault Path}
    (hend : Ends (workspace.sampleDirectory name) w r w') :
    workspace.Stocked root w'.disk samples ∧ ∀ path, r = .ok path → ∃ made,
      Artifact.directoryName name = .ok made ∧ path = pathOf (made :: rawStore root) ∧
        w'.disk.node? (made :: rawStore root) = some .directory := by
  rcases ends_bind.1 hend with ⟨store, t, hstore, hrest⟩ | ⟨fault, hstore, rfl⟩
  swap
  · exact ⟨h.store hstore, by simp⟩
  have ht := h.store hstore
  obtain ⟨rfl, hstands, -⟩ := h.tidy.stands_of_store h.holds.noLink_store hstore
  rcases ends_bind.1 hrest with ⟨made, t', hasked, hlater⟩ | ⟨fault, hasked, rfl⟩
  swap
  · obtain rfl : t = w' := respects_directoryName (R := Eq) name _ _ _ hasked
    exact ⟨ht, by simp⟩
  obtain ⟨hmade, rfl⟩ := ends_directoryName_ok.1 hasked
  have hpath : (pathOf (rawStore root)).child made = pathOf (made :: rawStore root) :=
    child_pathOf _ (Artifact.isName_directoryName hmade)
  rw [hpath] at hlater
  rcases ends_bind.1 hlater with ⟨⟨⟩, u, hmake, hlast⟩ | ⟨fault, hmake, rfl⟩
  · obtain ⟨rfl, rfl⟩ := ends_pure.1 hlast
    obtain ⟨disk, haction, rfl⟩ := ends_onDisk_ok.1 hmake
    obtain ⟨hstocked, hdir⟩ := ht.makeDirectories hstands hmade haction
    exact ⟨hstocked, fun path heq => ⟨made, hmade, (Except.ok.inj heq).symm, hdir rfl⟩⟩
  · obtain ⟨r', disk, haction, -, rfl⟩ := ends_onDisk.1 hmake
    exact ⟨(ht.makeDirectories hstands hmade haction).1, by simp⟩

omit h in
lemma ends_freshNumber :
    Ends freshNumber w (.ok (w.issued + 1)) { w with issued := w.issued + 1 } :=
  (ends_get.2 ⟨rfl, rfl⟩).bind ((ends_set.2 ⟨rfl, rfl⟩).bind (ends_pure.2 ⟨rfl, rfl⟩))

/-- **A path for a sample** is made of the moment and of the number that is taken. -/
theorem Stocked.newSamplePath {r : Except Fault Path}
    (hend : Ends (workspace.newSamplePath name) w r w') :
    workspace.Stocked root w'.disk samples ∧ ∀ path, r = .ok path → ∃ made file, IsSample file ∧
      Artifact.directoryName name = .ok made ∧ path = pathOf (file :: made :: rawStore root) ∧
        w'.disk.node? (made :: rawStore root) = some .directory := by
  rcases ends_bind.1 hend with ⟨directory, t, hdirectory, hrest⟩ | ⟨fault, hdirectory, rfl⟩
  · obtain ⟨ht, hplace⟩ := h.sampleDirectory hdirectory
    obtain ⟨made, hmade, rfl, hstands⟩ := hplace _ rfl
    obtain ⟨rfl, rfl⟩ := hrest.unique (ends_freshNumber.bind
      (Ends.bind (ends_get.2 ⟨rfl, rfl⟩) (ends_pure.2 ⟨rfl, rfl⟩)))
    refine ⟨ht, fun path hpath => ⟨made, _, ⟨t.clock, t.issued + 1, rfl⟩, hmade, ?_, hstands⟩⟩
    rw [← Except.ok.inj hpath, child_pathOf _ (isName_sample _ _)]
  · exact ⟨(h.sampleDirectory hdirectory).1, by simp⟩

/-- **Storing a sample** adds it, or is refused and adds nothing. -/
theorem Stocked.storeSample {r : Except Fault Path}
    (hend : Ends (workspace.storeSample name data) w r w') :
    (∃ path, r = .ok path ∧ workspace.Stocked root w'.disk (samples ++ [⟨name, path, data⟩])) ∨
      ∃ fault, r = .error fault ∧ workspace.Stocked root w'.disk samples := by
  rcases ends_bind.1 hend with ⟨path, t, hpath, hrest⟩ | ⟨fault, hpath, rfl⟩
  swap
  · exact Or.inr ⟨fault, rfl, (h.newSamplePath hpath).1⟩
  obtain ⟨ht, hplace⟩ := h.newSamplePath hpath
  obtain ⟨made, file, hfile, hmade, rfl, hstands⟩ := hplace _ rfl
  have hentry : t.disk.Entry file (made :: rawStore root) := ht.entry_sample hstands hmade hfile
  rcases ends_bind.1 hrest with ⟨⟨⟩, u, hcreate, hlast⟩ | ⟨fault, hcreate, rfl⟩
  · obtain ⟨rfl, rfl⟩ := ends_pure.1 hlast
    obtain ⟨disk, haction, rfl⟩ := ends_onDisk_ok.1 hcreate
    rcases (acts_create file (made :: rawStore root) data).ends hentry haction with
      ⟨-, hr, -⟩ | ⟨hshort, hr, heq⟩
    · cases hr
    · cases hnode : t.disk.node? (file :: made :: rawStore root) with
      | none =>
        rw [hnode] at heq
        obtain rfl : disk = t.disk.put (file :: made :: rawStore root) (.file data false) := heq
        refine Or.inl ⟨_, rfl, ?_⟩
        exact ⟨ht.tidy.put_raw (List.suffix_cons _ _) hstands hnode (by simp),
          ht.holds.put_sample hnode hshort hfile hmade⟩
      | some node =>
        rw [hnode] at hr
        cases hr
  · obtain ⟨r', disk, haction, hresult, rfl⟩ := ends_onDisk.1 hcreate
    have hsame : disk = t.disk := by
      rcases (acts_create file (made :: rawStore root) data).ends hentry haction with
        ⟨-, -, heq⟩ | ⟨-, hr, heq⟩
      · exact heq
      · cases hnode : t.disk.node? (file :: made :: rawStore root) with
        | none =>
          rw [hnode] at hr
          subst hr
          cases hresult
        | some node =>
          rw [hnode] at heq
          exact heq
    exact Or.inr ⟨fault, rfl, hsame ▸ ht⟩

/-- **A path where nothing is** is one that the sample is stored under. -/
theorem Stocked.stores {path : Path} {t : World}
    (hpath : Ends (workspace.newSamplePath name) w (.ok path) t)
    (hfree : Ends (pathExists path) t.disk (.ok false) t.disk) :
    ∃ w', Ends (workspace.storeSample name data) w (.ok path) w' := by
  obtain ⟨ht, hplace⟩ := h.newSamplePath hpath
  obtain ⟨made, file, hfile, hmade, rfl, hstands⟩ := hplace _ rfl
  have hentry : t.disk.Entry file (made :: rawStore root) := ht.entry_sample hstands hmade hfile
  obtain ⟨hshort, hnone⟩ : ¬ TooLong (file :: made :: rawStore root) ∧
      t.disk.node? (file :: made :: rawStore root) = none := by
    rcases (acts_leadsTo file (made :: rawStore root) fun _ => true).ends hentry hfree with
      ⟨-, hr, -⟩ | ⟨hshort, hr, -⟩
    · cases hr
    · exact ⟨hshort, by simpa using (Except.ok.inj hr).symm⟩
  obtain ⟨r, disk, hcreate⟩ := exists_ends
    (create (pathOf (file :: made :: rawStore root)) data) t.disk
  rcases (acts_create file (made :: rawStore root) data).ends hentry hcreate with
    ⟨hlong, -⟩ | ⟨-, rfl, -⟩
  · exact absurd hlong hshort
  · rw [hnone] at hcreate
    exact ⟨_, hpath.bind
      (Ends.bind (ends_onDisk_ok.2 ⟨disk, hcreate, rfl⟩) (ends_pure.2 ⟨rfl, rfl⟩))⟩

/-- **A path where something is** is the path of a sample, and no sample is stored there. -/
theorem Stocked.refused {path : Path} {t : World}
    (hpath : Ends (workspace.newSamplePath name) w (.ok path) t)
    (hthere : Ends (pathExists path) t.disk (.ok true) t.disk) :
    path ∈ samples.map Sample.path ∧
      Ends (workspace.storeSample name data) w
        (.error (.disk (.system (Cause.present.about path)))) t := by
  obtain ⟨ht, hplace⟩ := h.newSamplePath hpath
  obtain ⟨made, file, hfile, hmade, rfl, hstands⟩ := hplace _ rfl
  have hentry : t.disk.Entry file (made :: rawStore root) := ht.entry_sample hstands hmade hfile
  have hnode : t.disk.node? (file :: made :: rawStore root) ≠ none := by
    obtain ⟨⟨-, node, hlook, -⟩, -⟩ := ends_leadsTo_true.1 hthere
    obtain ⟨place, hfind, hnode⟩ := look_eq_ok.1 hlook
    rw [find_at hentry] at hfind
    split at hfind
    · cases hfind
    · obtain rfl := Except.ok.inj hfind
      simp [hnode]
  obtain ⟨sample, hsample, hshelved⟩ := ht.holds.shelved_of_node? hnode
  refine ⟨List.mem_map.2 ⟨sample, hsample, hshelved.path⟩, hpath.bind (Ends.bind_error ?_)⟩
  obtain ⟨r, disk, hcreate⟩ := exists_ends
    (create (pathOf (file :: made :: rawStore root)) data) t.disk
  rcases (acts_create file (made :: rawStore root) data).ends hentry hcreate with
    ⟨hlong, -⟩ | ⟨-, rfl, rfl⟩
  · exact absurd hlong hshelved.short
  · rw [hshelved.node] at hcreate
    exact ends_onDisk.2 ⟨_, _, hcreate, rfl, rfl⟩

/-- **A sample is there with its data.** -/
theorem Stocked.content? {sample : Sample} (hsample : sample ∈ samples) :
    w.disk.content? sample.path = some sample.data := by
  obtain ⟨made, file, hshelved⟩ := h.holds.shelved sample hsample
  have hthere : w.disk.node? (file :: made :: rawStore root) ≠ none := by simp [hshelved.node]
  have hentry := h.entry_sample (h.tidy.tree file _ hthere) hshelved.named hshelved.isSample
  rw [hshelved.path]
  exact content?_eq_some.2
    ⟨_, false, (find_at hentry true).trans (if_neg hshelved.short), hshelved.node⟩

end Storing

/-! ## Groups -/

/-- The groups are the samples: those of one directory name, in order and each once, are a group,
and the groups are in the order of their names. -/
structure Grouped (groups : List Group) (samples : List Sample) : Prop where
  names : groups.Pairwise fun a b => a.name < b.name
  sorted : ∀ group ∈ groups, group.samples.Pairwise fun a b => a.sortKey < b.sortKey
  nonempty : ∀ group ∈ groups, group.samples ≠ []
  mem : ∀ made path, (∃ group ∈ groups, group.name = made ∧ path ∈ group.samples) ↔
    ∃ sample ∈ samples, Artifact.directoryName sample.name = .ok made ∧ sample.path = path

/-- The group of a directory of the raw store. -/
def groupAt (disk : Disk) (root : Location) (made : String) : Group :=
  ⟨made, (disk.filesIn (made :: rawStore root) rawSuffix).map fun file =>
    pathOf (file :: made :: rawStore root)⟩

/-- The groups that a listing of these directories answers with. -/
def groupsAt (disk : Disk) (root : Location) (names : List String) : List Group :=
  (names.map (groupAt disk root)).filter fun group => !group.samples.isEmpty

section Groups

variable (h : workspace.Stocked root disk samples)

include h

/-- The files in a directory of the raw store are samples. -/
lemma Stocked.mem_filesIn : file ∈ disk.filesIn (made :: rawStore root) rawSuffix ↔
    ∃ sample ∈ samples, Shelved root disk sample made file := by
  rw [filesIn, List.mem_filter, mem_namesIn h.tidy.distinct]
  constructor
  · exact fun hfile => h.holds.shelved_of_node? hfile.1
  · rintro ⟨sample, -, hshelved⟩
    refine ⟨by simp [hshelved.node], ?_⟩
    simp [hshelved.isSample.hasSuffix, holdsFile, hshelved.node]

/-- The raw store can be read, if it is there. -/
lemma Stocked.readable_store (hstands : disk.node? (rawStore root) = some .directory) :
    disk.Readable (rawStore root) where
  clean := h.entry_store.clean
  leads := (find_at h.entry_store true).trans (if_neg h.holds.short)
  stands := hstands
  entry made hthere := by
    obtain ⟨-, -, name, hmade⟩ := h.holds.directory made hthere
    exact h.entry_directory hstands hmade

/-- So can the directories in it. -/
lemma Stocked.readable_directory (hthere : disk.node? (made :: rawStore root) ≠ none) :
    disk.Readable (made :: rawStore root) := by
  have hraw : disk.node? (rawStore root) = some .directory := h.tidy.tree _ _ hthere
  obtain ⟨hstands, hshort, name, hmade⟩ := h.holds.directory made hthere
  have hentry := h.entry_directory hraw hmade
  refine ⟨hentry.clean, (find_at hentry true).trans (if_neg hshort), hstands, fun file hfile => ?_⟩
  obtain ⟨sample, -, hshelved⟩ := h.holds.shelved_of_node? hfile
  exact h.entry_sample hstands hmade hshelved.isSample

/-- The samples in a directory are listed. -/
lemma Stocked.ends_filesWithSuffix (hthere : disk.node? (made :: rawStore root) ≠ none) :
    Ends (filesWithSuffix (pathOf (made :: rawStore root)) rawSuffix) disk
      (.ok (groupAt disk root made).samples) disk := by
  refine ends_filesWithSuffix_at (h.readable_directory hthere) rawSuffix fun file hfile _ => ?_
  obtain ⟨sample, -, hshelved⟩ := h.holds.shelved_of_node? hfile
  exact hshelved.short

lemma Stocked.ends_groupsAmong : ∀ names : List String,
    (∀ made ∈ names, disk.node? (made :: rawStore root) ≠ none) →
    Ends (groupsAmong (names.map fun made => pathOf (made :: rawStore root))) disk
      (.ok (groupsAt disk root names)) disk
  | [], _ => ends_pure.2 ⟨rfl, rfl⟩
  | made :: rest, hnames => by
      rw [List.forall_mem_cons] at hnames
      obtain ⟨hthere, hrest⟩ := hnames
      obtain ⟨hstands, hshort, -⟩ := h.holds.directory made hthere
      have hraw : disk.node? (rawStore root) = some .directory := h.tidy.tree _ _ hthere
      have hdirectory : Ends (isDirectory (pathOf (made :: rawStore root))) disk (.ok true) disk :=
        ends_isDirectory_true.2 ⟨⟨(h.readable_directory hthere).clean, _,
          (h.readable_directory hthere).leads, hstands⟩, rfl⟩
      have hothers := ends_groupsAmong rest hrest
      refine hdirectory.bind ((h.ends_filesWithSuffix hthere).bind
        (hothers.bind (ends_pure.2 ⟨?_, rfl⟩)))
      rw [groupsAt, List.map_cons, List.filter_cons, name_pathOf]
      cases (groupAt disk root made).samples.isEmpty <;> rfl

/-- **The groups in the raw store are the samples.** -/
theorem Stocked.grouped :
    Grouped (groupsAt disk root (disk.namesIn (rawStore root))) samples := by
  have hmem (made : String) (path : Path) : path ∈ (groupAt disk root made).samples ↔
      ∃ sample ∈ samples, Artifact.directoryName sample.name = .ok made ∧ sample.path = path := by
    simp only [groupAt, List.mem_map, h.mem_filesIn]
    constructor
    · rintro ⟨file, ⟨sample, hsample, hshelved⟩, rfl⟩
      exact ⟨sample, hsample, hshelved.named, hshelved.path⟩
    · rintro ⟨sample, hsample, hmade, rfl⟩
      obtain ⟨other, file, hshelved⟩ := h.holds.shelved sample hsample
      obtain rfl := Except.ok.inj (hmade.symm.trans hshelved.named)
      exact ⟨file, ⟨sample, hsample, hshelved⟩, hshelved.path.symm⟩
  refine ⟨?_, fun group hgroup => ?_, fun group hgroup => ?_, fun made path => ?_⟩
  · refine List.Pairwise.sublist List.filter_sublist ?_
    exact List.pairwise_map.2 (pairwise_namesIn h.tidy.distinct _)
  · obtain ⟨made, -, rfl⟩ := List.mem_map.1 (List.mem_of_mem_filter hgroup)
    refine List.pairwise_map.2 (List.Pairwise.sublist List.filter_sublist ?_)
    exact (pairwise_namesIn h.tidy.distinct _).imp (sortKey_lt_iff _ _ _).2
  · simpa using (List.mem_filter.1 hgroup).2
  · rw [← hmem]
    constructor
    · rintro ⟨group, hgroup, rfl, hpath⟩
      obtain ⟨made, -, rfl⟩ := List.mem_map.1 (List.mem_of_mem_filter hgroup)
      exact hpath
    · intro hpath
      obtain ⟨sample, hsample, hmade, -⟩ := (hmem made path).1 hpath
      obtain ⟨other, file, hshelved⟩ := h.holds.shelved sample hsample
      obtain rfl := Except.ok.inj (hmade.symm.trans hshelved.named)
      refine ⟨groupAt disk root made, List.mem_filter.2 ⟨List.mem_map_of_mem ?_, ?_⟩, rfl, hpath⟩
      · rw [mem_namesIn h.tidy.distinct, h.tidy.tree file _ (by simp [hshelved.node])]
        simp
      · simpa using List.ne_nil_of_mem hpath

omit h in
/-- **Looking for groups** finds the samples, sorted. -/
theorem Stocked.groups (h : workspace.Stocked root w.disk samples) : ∃ groups disk,
    Ends workspace.groups w (.ok groups) { w with disk } ∧ workspace.Stocked root disk samples ∧
      Grouped groups samples := by
  obtain ⟨disk, hstore⟩ := h.tidy.ends_store h.holds.short h.holds.store
  have hstocked : workspace.Stocked root disk samples := h.store hstore
  obtain ⟨-, hstands, -⟩ := h.tidy.stands_of_store h.holds.noLink_store hstore
  have hreadable := hstocked.readable_store hstands
  have hentries := ends_entriesOf_at hreadable.clean hreadable.leads hstands hreadable.isName
  have hgroups := hstocked.ends_groupsAmong (disk.namesIn (rawStore root)) fun made =>
    node?_of_mem_namesIn
  exact ⟨_, disk, hstore.bind (ends_onDisk_ok.2 ⟨disk, hentries.bind hgroups, rfl⟩), hstocked,
    hstocked.grouped⟩

end Groups

end WasmCoverage.Workspace
