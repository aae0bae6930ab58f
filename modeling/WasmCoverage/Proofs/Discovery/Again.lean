import WasmCoverage.Proofs.Discovery.Exact
import WasmCoverage.Proofs.Disk.Limits

/-!
# Searching again

A search that answers has asked for every path that it needs, so none of them was too long
(`Searchable.nameable_of_candidates`, `short_ir_of_modulesAmong`).  So a search of a tree without
links has an answer exactly if none is (`discover_ok_iff`).  Files that come, go or change outside
of module directories do not matter to it: a search of the same root answers with the same modules
afterwards (**`discover_again`**).
-/

namespace WasmCoverage

open WasmCoverage.Text

namespace Disk

variable {disk disk' : Disk} {root place directory : Location} {name : String} {data : Octets}

/-! ## What a search that answers has asked for -/

/-- A path that leads somewhere is not too long. -/
lemma not_tooLong_of_find {follow : Bool} {location reached : Location}
    (h : disk.find (pathOf location) follow = .ok reached) : ¬ TooLong location := by
  rintro (htext | ⟨n, hn, hlong⟩)
  · exact absurd (find_eq_ok_iff.1 h).1 (Nat.not_le.2 htext)
  · exact absurd (short_of_find h n (by simpa [pathOf] using hn)) (Nat.not_le.2 hlong)

/-- Nor is that of an entry that was asked for its kind. -/
lemma not_tooLong_of_isFile (hentry : disk.Entry name directory) {there : Bool}
    (h : Ends (isFile (pathOf (name :: directory))) disk (.ok there) disk') :
    ¬ TooLong (name :: directory) := by
  intro hlong
  have hkind : Ends (isFile (pathOf (name :: directory))) disk _ _ :=
    acts_leadsTo name directory _ disk hentry
  unfold Effect.within at hkind
  rw [if_pos hlong] at hkind
  cases (h.unique hkind).1

/-- A directory that was listed was asked for every entry with the suffix. -/
lemma Readable.not_tooLong_of_filesWithSuffix (h : disk.Readable directory)
    (hdistinct : disk.Distinct) {suffix : String} {files : List Path}
    (hend : Ends (filesWithSuffix (pathOf directory) suffix) disk (.ok files) disk')
    (hthere : disk.node? (name :: directory) ≠ none) (hsuffix : hasSuffix suffix name = true) :
    ¬ TooLong (name :: directory) := by
  obtain ⟨location, ⟨-, hfind⟩, -, hasked, -⟩ := ends_filesWithSuffix_ok.1 hend
  obtain rfl := Except.ok.inj (h.leads.symm.trans hfind)
  have hmem : pathOf (name :: directory) ∈ disk.listedWith (pathOf directory) suffix directory := by
    refine List.mem_filter.2 ⟨?_, by rwa [name_pathOf]⟩
    rw [map_child_eq h.isName]
    exact List.mem_map_of_mem (List.mem_mergeSort.1 ((mem_namesIn hdistinct).2 hthere))
  exact not_tooLong_of_isFile (h.entry name hthere) (hasked _ hmem)

/-- **A search that finds its candidates asked for no path that is too long.** -/
theorem Searchable.nameable_of_candidates (h : disk.Searchable root) {files : List Path}
    (hend : Ends (candidates (pathOf root)) disk (.ok files) disk') : disk.Nameable root := by
  obtain ⟨location, found, ⟨-, hfind⟩, hfound, -⟩ := ends_candidates_ok.1 hend
  have hbase : ¬ TooLong root := not_tooLong_of_find hfind
  obtain rfl := Except.ok.inj (hfind.symm.trans (h.find_root hbase).2)
  have hdirectory (directory : Location) (hbelow : location <:+ directory)
      (hdir : disk.node? directory = some .directory) :
      ¬ TooLong (moduleDirectory :: directory) := by
    intro hlong
    obtain ⟨error, herror, -⟩ := h.candidates_of_tooLong hbelow hdir hlong
    cases (hend.unique herror).1
  refine ⟨hbase, hdirectory, fun name directory hbelow hsuffix hthere => ?_⟩
  have hdeps : disk.node? (moduleDirectory :: directory) = some .directory := h.tree _ _ hthere
  have hdir : disk.node? directory = some .directory := h.tree _ _ (by rw [hdeps]; simp)
  have hreadable := h.readable_moduleDirectory hbelow hdeps (hdirectory directory hbelow hdir)
  -- the search listed the module directory, as it is one
  obtain ⟨others, hmodules⟩ :=
    ends_modulesIn_of_candidatesIn hfound (h.mem_directoriesFrom.2 ⟨hbelow, hdir⟩)
  rw [child_pathOf _ isName_moduleDirectory] at hmodules
  obtain ⟨isDir, d, hisDir, hfiles⟩ := ends_bind_ok.1 hmodules
  obtain ⟨hisTrue, hsame⟩ := hisDir.unique (ends_isDirectory_true.2
    ⟨⟨hreadable.clean, _, hreadable.leads, hdeps⟩, rfl⟩)
  obtain rfl := Except.ok.inj hisTrue
  exact hreadable.not_tooLong_of_filesWithSuffix h.distinct (hsame ▸ hfiles) hthere hsuffix

end Disk

open Disk

variable {disk disk' : Disk} {w w' u : World} {root place : Location} {path : Path}
  {forbidden : Forbidden} {marker data : Octets} {modules : List Module}

/-- Without a marker there are modules among no files at all. -/
lemma eq_nil_of_modulesAmong {paths : List Path}
    (h : Ends (modulesAmong forbidden [] paths) w (.ok modules) w') :
    paths = [] ∧ modules = [] := by
  cases paths with
  | nil => exact ⟨rfl, Except.ok.inj (ends_pure.1 h).1⟩
  | cons first rest =>
      obtain ⟨instrumented, t, hfirst, -⟩ := ends_bind_ok.1 h
      rw [isInstrumented_eq, if_pos rfl] at hfirst
      cases (ends_throw.1 hfirst).1

/-- **A search that pairs its modules asked for no IR whose path is too long.** -/
theorem short_ir_of_modulesAmong (h : disk.Searchable root) (hmarker : marker ≠ []) :
    ∀ {places : List Location} {modules : List Module} {w w' : World}, w.disk = disk →
    (∀ place ∈ places, (∃ data, disk.ModuleAt root place data) ∧ ¬ TooLong place) →
    Ends (modulesAmong forbidden marker (places.map pathOf)) w (.ok modules) w' →
    ∀ place ∈ disk.instrumented forbidden marker places, ¬ TooLong (irPlace place)
  | [], _, _, _, _, _, _ => by simp [instrumented]
  | place :: rest, modules, w, w', hdisk, hplaces, hend => by
      rw [List.forall_mem_cons] at hplaces
      obtain ⟨⟨⟨data, hplace⟩, hshort⟩, hrest⟩ := hplaces
      have h₀ : w.disk.Searchable root := hdisk.symm ▸ h
      have hplace₀ : w.disk.ModuleAt root place data := hdisk.symm ▸ hplace
      obtain ⟨marked, t, hmarked, hend⟩ := ends_bind_ok.1 hend
      have hsame : t.disk = disk := (respects_isInstrumented _ _ _ _ hmarked).symm.trans hdisk
      rw [instrumented, List.filter_cons]
      cases hforbidden : forbidden (pathOf place) with
      | true =>
          obtain rfl := Except.ok.inj
            (hmarked.unique (ends_isInstrumented_forbidden hmarker hforbidden)).1
          exact short_ir_of_modulesAmong h hmarker hsame hrest hend
      | false =>
          obtain rfl := Except.ok.inj
            (hmarked.unique (ends_isInstrumented_at h₀ hmarker hplace₀ hshort hforbidden)).1
          rw [hdisk] at hend
          cases hmark : disk.readsMarker marker place with
          | false =>
              rw [hmark] at hend
              exact short_ir_of_modulesAmong h hmarker hsame hrest hend
          | true =>
              rw [hmark, if_pos rfl] at hend
              obtain ⟨found, t', hpairing, hend⟩ := ends_bind_ok.1 hend
              obtain ⟨others, t'', hothers, -⟩ := ends_bind_ok.1 hend
              have hsame' : t'.disk = disk := (respects_pairing _ _ _ _ hpairing).symm.trans hsame
              rw [Bool.not_false, Bool.and_self, if_pos rfl, List.forall_mem_cons]
              refine ⟨?_, short_ir_of_modulesAmong h hmarker hsame' hrest hothers⟩
              obtain ⟨name, directory, executable, rfl, -⟩ := id hplace
              unfold pairing at hpairing
              rw [withSuffix?_pathOf] at hpairing
              obtain ⟨there, t₃, hasked, -⟩ := ends_bind_ok.1 hpairing
              obtain ⟨d, hfile, -⟩ := ends_onDisk_ok.1 hasked
              exact not_tooLong_of_isFile (h.entry_ir hplace) (hsame ▸ hfile)

/-- The modules that a search of the root finds. -/
def Disk.modulesFound (disk : Disk) (root : Location) (marker : Octets) (forbidden : Forbidden) :
    List Module :=
  (disk.instrumented forbidden marker (disk.modulePlaces root)).map disk.recorded

/-- A search has an answer: none of the paths that it asks for is too long, and there is a marker if
there are files to search for it. -/
structure Disk.Answerable (disk : Disk) (root : Location) (marker : Octets)
    (forbidden : Forbidden) : Prop where
  nameable : disk.Nameable root
  marked : marker = [] → disk.modulePlaces root = []
  ir : ∀ place ∈ disk.instrumented forbidden marker (disk.modulePlaces root),
    ¬ TooLong (irPlace place)

/-- **When a search has an answer, and which.** -/
theorem discover_ok_iff (h : w.disk.Searchable root) (hclean : hasNul path = false)
    (hpath : w.disk.find path true = .ok root) :
    (∃ w', Ends (discover path marker forbidden) w (.ok modules) w') ↔
      w.disk.Answerable root marker forbidden ∧
        modules = w.disk.modulesFound root marker forbidden := by
  obtain ⟨hdir, hresolve⟩ := h.ends_resolve hclean hpath
  constructor
  · rintro ⟨w', hend⟩
    obtain ⟨-, base, files, hbase, hcandidates, hamong⟩ := ends_discover_ok.1 hend
    obtain rfl := Except.ok.inj (hbase.unique hresolve).1
    have hnameable := h.nameable_of_candidates hcandidates
    obtain rfl := Except.ok.inj (hcandidates.unique (h.ends_candidates hnameable)).1
    by_cases hmarker : marker = []
    · subst hmarker
      obtain ⟨hnone, rfl⟩ := eq_nil_of_modulesAmong hamong
      rw [List.map_eq_nil_iff] at hnone
      exact ⟨⟨hnameable, fun _ => hnone, by simp [hnone, instrumented]⟩,
        by simp [modulesFound, hnone, instrumented]⟩
    · have hir := short_ir_of_modulesAmong h hmarker rfl (fun place => h.module_of_mem hnameable)
        hamong
      have hfound := ends_modulesAmong h hmarker _ w.journal
        (fun place => h.module_of_mem hnameable) hir
      exact ⟨⟨hnameable, fun hnone => absurd hnone hmarker, hir⟩,
        Except.ok.inj (hamong.unique hfound).1⟩
  · rintro ⟨hanswer, rfl⟩
    have hcandidates := h.ends_candidates hanswer.nameable
    by_cases hmarker : marker = []
    · have hnone := hanswer.marked hmarker
      refine ⟨w, ends_discover_ok.2 ⟨hdir, pathOf root, _, hresolve, hcandidates, ?_⟩⟩
      rw [modulesFound, hnone]
      exact ends_pure.2 ⟨rfl, rfl⟩
    · exact ⟨_, ends_discover_ok.2 ⟨hdir, pathOf root, _, hresolve, hcandidates,
        ends_modulesAmong h hmarker _ w.journal (fun place => h.module_of_mem hanswer.nameable)
          hanswer.ir⟩⟩

/-- **The files of a module that was found**: its own and its IR are in a module directory, under
paths that are not too long. -/
theorem Disk.Answerable.file_of_module (hanswer : disk.Answerable root marker forbidden)
    (h : disk.Searchable root) {m : Module} (hm : m ∈ disk.modulesFound root marker forbidden)
    {file : Path} (hfile : file = m.path ∨ m.ir? = some file) :
    ∃ name directory data executable, file = pathOf (name :: moduleDirectory :: directory) ∧
      disk.Entry name (moduleDirectory :: directory) ∧
      ¬ TooLong (name :: moduleDirectory :: directory) ∧
      disk.node? (name :: moduleDirectory :: directory) = some (.file data executable) := by
  obtain ⟨place, hplace, rfl⟩ := List.mem_map.1 hm
  have hlisted := (List.mem_filter.1 hplace).1
  obtain ⟨⟨data, hmodule⟩, hshort⟩ := h.module_of_mem hanswer.nameable hlisted
  obtain ⟨name, directory, executable, rfl, hbelow, -, hnode⟩ := id hmodule
  rcases hfile with rfl | hir
  · exact ⟨name, directory, data, executable, rfl,
      h.entry_of_there (hbelow.trans (List.suffix_cons _ _)) (by simp [hnode]), hshort, hnode⟩
  · simp only [Module.ir?, recorded_pairing] at hir
    split at hir
    · next ir hpairing =>
      obtain rfl := Option.some.inj hir
      split at hpairing
      · next hfile =>
        obtain rfl := Pairing.found.inj hpairing
        obtain ⟨data, executable, hnode⟩ := holdsFile_iff.1 hfile
        exact ⟨_, directory, data, executable, rfl, h.entry_ir hmodule, hanswer.ir _ hplace, hnode⟩
      · cases hpairing
    · cases hir

/-! ## Files elsewhere -/

section Elsewhere

variable {places : Location → Prop} (h : disk.Searchable root) (h' : disk'.Searchable root)
  (hrefiles : Refiles places disk disk')
  (helsewhere : ∀ name directory, ¬ places (name :: moduleDirectory :: directory))

include hrefiles helsewhere

/-- Files elsewhere are no modules. -/
lemma moduleAt_iff_of_refiles : disk'.ModuleAt root place data ↔ disk.ModuleAt root place data := by
  unfold ModuleAt
  refine exists_congr fun name => exists_congr fun directory => exists_congr fun executable => ?_
  refine and_congr_right fun hplace => ?_
  rw [hplace, hrefiles.node?_eq (helsewhere name directory)]

/-- Nor are they the IR of one. -/
lemma recorded_of_refiles (hplace : disk.ModuleAt root place data) :
    disk'.recorded place = disk.recorded place := by
  obtain ⟨name, directory, executable, rfl, -⟩ := hplace
  have hsame := hrefiles.node?_eq (helsewhere (Path.stemOf name ++ irSuffix) directory)
  simp [recorded, irPlace, holdsFile, hsame]

/-- Directories are where they were, and so is what is in module directories. -/
lemma nameable_of_refiles (hnameable : disk.Nameable root) : disk'.Nameable root where
  base := hnameable.base
  directory directory hbelow hdir := by
    refine hnameable.directory directory hbelow ?_
    rcases hrefiles.node directory with heq | ⟨-, -, hplain⟩
    · rw [← heq, hdir]
    · exact absurd hdir hplain.ne_directory
  entry name directory hbelow hsuffix hthere := by
    rw [hrefiles.node?_eq (helsewhere name directory)] at hthere
    exact hnameable.entry name directory hbelow hsuffix hthere

include h h'

lemma modulePlaces_of_refiles : disk'.modulePlaces root = disk.modulePlaces root := by
  have hsorted := h.pairwise_modulePlaces
  have hsorted' := h'.pairwise_modulePlaces
  refine List.Perm.eq_of_pairwise (fun a b _ _ hab hba => absurd (hab.trans hba) (lt_irrefl _))
    hsorted' hsorted ?_
  rw [List.perm_ext_iff_of_nodup (hsorted'.imp fun hlt heq => absurd (heq ▸ hlt) (lt_irrefl _))
    (hsorted.imp fun hlt heq => absurd (heq ▸ hlt) (lt_irrefl _))]
  intro place
  simp only [h.mem_modulePlaces, h'.mem_modulePlaces, moduleAt_iff_of_refiles hrefiles helsewhere]

lemma instrumented_of_refiles :
    disk'.instrumented forbidden marker (disk'.modulePlaces root) =
      disk.instrumented forbidden marker (disk.modulePlaces root) := by
  rw [modulePlaces_of_refiles h h' hrefiles helsewhere]
  refine List.filter_congr fun place hplace => ?_
  obtain ⟨data, name, directory, executable, rfl, -⟩ := h.mem_modulePlaces.1 hplace
  unfold readsMarker
  rw [hrefiles.node?_eq (helsewhere name directory)]

/-- **Files elsewhere do not matter to a search.**  Where it answered, it answers alike when files
have come, gone or changed outside of module directories. -/
theorem discover_again (hclean : hasNul path = false) (hpath : disk.find path true = .ok root)
    (hw : w.disk = disk) (hu : u.disk = disk')
    (hend : Ends (discover path marker forbidden) w (.ok modules) w') :
    ∃ u', Ends (discover path marker forbidden) u (.ok modules) u' := by
  subst hw hu
  have hpath' := hrefiles.find hpath (h.noLink root List.suffix_rfl)
  obtain ⟨hanswer, rfl⟩ := (discover_ok_iff h hclean hpath).1 ⟨w', hend⟩
  have hinstrumented : u.disk.instrumented forbidden marker (u.disk.modulePlaces root) =
      w.disk.instrumented forbidden marker (w.disk.modulePlaces root) :=
    instrumented_of_refiles h h' hrefiles helsewhere
  refine (discover_ok_iff h' hclean hpath').2 ⟨⟨?_, fun hmarker => ?_, ?_⟩, ?_⟩
  · exact nameable_of_refiles hrefiles helsewhere hanswer.nameable
  · rw [modulePlaces_of_refiles h h' hrefiles helsewhere, hanswer.marked hmarker]
  · rw [hinstrumented]
    exact hanswer.ir
  · rw [modulesFound, modulesFound, hinstrumented]
    refine List.map_congr_left fun place hplace => ?_
    obtain ⟨data, hmodule⟩ := h.mem_modulePlaces.1 (List.mem_filter.1 hplace).1
    exact (recorded_of_refiles hrefiles helsewhere hmodule).symm

end Elsewhere

end WasmCoverage
