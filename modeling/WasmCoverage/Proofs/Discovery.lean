import WasmCoverage.Discovery
import WasmCoverage.Proofs.Disk.Listing
import WasmCoverage.Proofs.Disk.RealPath

/-!
# What is found

A search changes nothing (`respects_discover`), and every module that it finds is *sound*
(`discover_sound`): its path is absolute, its file has a name that ends as names of modules do, and
the IR that belongs to it is the file beside it with the other suffix.
-/

namespace WasmCoverage

open WasmCoverage.Text

/-! ## Sound modules -/

/-- The file of the module has an absolute path and is named as modules are, and its IR lies beside
it. -/
structure Module.Sound (module : Module) : Prop where
  absolute : module.path.isAbsolute = true
  isName : Path.IsName module.path.name
  suffix : Disk.hasSuffix moduleSuffix module.path.name = true
  ir : ∀ ir, module.ir? = some ir → module.path.withSuffix? irSuffix = some ir

/-- The last name of a child is one that the text spells, or there is no such name. -/
lemma Path.name_child_mem (base : Path) (text : String) :
    (base.child text).name ∈ Path.namesOf text.toList ∨ (base.child text).name = base.name ∨
      (base.child text).name = "" := by
  have hlast (front : List String) {names : List String} (hnames : names ≠ []) :
      (front ++ names).getLast?.getD "" ∈ names := by
    rw [List.getLast?_append, List.getLast?_eq_some_getLast hnames]
    exact List.getLast_mem hnames
  have hchild : base.child text = ⟨base.anchor, base.names ++ Path.namesOf text.toList⟩ ∨
      base.child text = Path.ofText text := by
    change Path.append base (Path.ofText text) = _ ∨ Path.append base (Path.ofText text) = _
    unfold Path.append
    split
    · exact Or.inl rfl
    · exact Or.inr rfl
  rcases hchild with hchild | hchild
  · rw [hchild]
    by_cases hnames : Path.namesOf text.toList = []
    · exact Or.inr (Or.inl (by simp [Path.name, hnames]))
    · exact Or.inl (hlast _ hnames)
  · rw [hchild]
    by_cases hnames : Path.namesOf text.toList = []
    · exact Or.inr (Or.inr (by simp [Path.name, Path.ofText, hnames]))
    · exact Or.inl (hlast [] hnames)

/-- A child whose last name ends as those of modules is named by it. -/
lemma Path.isName_of_moduleSuffix {base : Path} {text : String} (hbase : base.name = "deps")
    (h : Disk.hasSuffix moduleSuffix (base.child text).name = true) :
    Path.IsName (base.child text).name := by
  rcases Path.name_child_mem base text with hmem | hname | hname
  · have hne : (base.child text).name ≠ ".." := fun heq => by
      rw [heq] at h
      exact absurd h (by decide)
    exact isName_of_mem_namesOf hmem hne
  · rw [hname, hbase] at h
    exact absurd h (by decide)
  · rw [hname] at h
    exact absurd h (by decide)

/-! ## Candidates -/

namespace Disk

variable {disk disk' : Disk} {path : Path}

/-- The path of a candidate: absolute, and that of a file that is named as modules are. -/
def Candidate (path : Path) : Prop :=
  path.isAbsolute = true ∧ Path.IsName path.name ∧ hasSuffix moduleSuffix path.name = true

lemma respects_modulesIn : Respects Eq (modulesIn path) := by
  refine (respects_leadsTo _).bind fun found => ?_
  split
  · exact respects_filesWithSuffix _
  · exact Respects.pure _

lemma respects_candidatesIn : ∀ places : List Location, Respects Eq (candidatesIn places)
  | [] => Respects.pure _
  | _ :: rest => respects_modulesIn.bind fun _ =>
      (respects_candidatesIn rest).bind fun _ => Respects.pure _

lemma respects_candidates : Respects Eq (candidates path) :=
  (respects_locate true).bind fun _ => Respects.get.bind fun _ =>
    (respects_candidatesIn _).bind fun _ => Respects.pure _

lemma candidate_of_mem_modulesIn (habsolute : path.isAbsolute = true)
    (hpath : path.name = "deps") {files : List Path}
    (h : Ends (modulesIn path) disk (.ok files) disk') : ∀ file ∈ files, Candidate file := by
  obtain ⟨found, d, -, hrest⟩ := ends_bind_ok.1 h
  intro file hfile
  split at hrest
  · obtain ⟨⟨name, rfl⟩, hsuffix, -⟩ := mem_filesWithSuffix hrest hfile
    exact ⟨Path.isAbsolute_child habsolute _, Path.isName_of_moduleSuffix hpath hsuffix, hsuffix⟩
  · obtain rfl := Except.ok.inj (ends_pure.1 hrest).1
    cases hfile

lemma candidate_of_mem_candidatesIn : ∀ {places : List Location} {files : List Path}
    {disk disk' : Disk}, Ends (candidatesIn places) disk (.ok files) disk' →
    ∀ file ∈ files, Candidate file
  | [], files, disk, disk', h => by
      obtain rfl := Except.ok.inj (ends_pure.1 h).1
      simp
  | place :: rest, files, disk, disk', h => by
      obtain ⟨found, d, hfound, hrest⟩ := ends_bind_ok.1 h
      obtain ⟨others, d', hothers, hlast⟩ := ends_bind_ok.1 hrest
      obtain rfl := Except.ok.inj (ends_pure.1 hlast).1
      have hname : ((pathOf place).child moduleDirectory).name = "deps" :=
        Path.name_child _ (by decide)
      intro file hfile
      rcases List.mem_append.1 hfile with hfile | hfile
      · exact candidate_of_mem_modulesIn (Path.isAbsolute_child rfl _) hname hfound file hfile
      · exact candidate_of_mem_candidatesIn hothers file hfile

/-- **The candidates under a directory** are those of all directories below it, in order. -/
theorem ends_candidates_ok {files : List Path} : Ends (candidates path) disk (.ok files) disk' ↔
    ∃ location found, (hasNul path = false ∧ disk.find path true = .ok location) ∧
      Ends (candidatesIn (disk.directoriesFrom location)) disk (.ok found) disk' ∧
      files = Path.sort found := by
  rw [candidates, ends_locate_bind_ok]
  constructor
  · rintro ⟨location, hfind, hrest⟩
    obtain ⟨found, d, hfound, hlast⟩ := ends_bind_ok.1 (ends_get_bind.1 hrest)
    obtain ⟨hfiles, rfl⟩ := ends_pure.1 hlast
    exact ⟨location, found, hfind, hfound, Except.ok.inj hfiles⟩
  · rintro ⟨location, found, hfind, hfound, rfl⟩
    exact ⟨location, hfind, ends_get_bind.2 (hfound.bind (ends_pure.2 ⟨rfl, rfl⟩))⟩

lemma candidate_of_mem_candidates {files : List Path}
    (h : Ends (candidates path) disk (.ok files) disk') : ∀ file ∈ files, Candidate file := by
  obtain ⟨location, found, -, hfound, rfl⟩ := ends_candidates_ok.1 h
  intro file hfile
  rw [Path.sort, List.mem_mergeSort] at hfile
  exact candidate_of_mem_candidatesIn hfound file hfile

end Disk

/-! ## Discovery -/

variable {w w' : World} {forbidden : Forbidden} {marker : Octets}

lemma respects_pairing (path : Path) : Respects (OnDisk Eq) (pairing path) := by
  unfold pairing
  split
  · exact Respects.throw _
  · refine Disk.respects_isFile.onDisk.bind fun found => ?_
    split
    · exact Respects.pure _
    · exact Respects.pure _

lemma ir_of_pairing {path : Path} {found : Pairing}
    (h : Ends (pairing path) w (.ok found) w') (ir : Path)
    (hir : Module.ir? ⟨path, found⟩ = some ir) : path.withSuffix? irSuffix = some ir := by
  unfold pairing at h
  split at h
  · cases (ends_throw.1 h).1
  · next beside hbeside =>
      obtain ⟨there, t, -, hrest⟩ := ends_bind_ok.1 h
      split at hrest
      · obtain rfl := Except.ok.inj (ends_pure.1 hrest).1
        obtain rfl : beside = ir := Option.some.inj hir
        exact hbeside
      · obtain rfl := Except.ok.inj (ends_pure.1 hrest).1
        cases hir

/-- A candidate is read, and left out if it cannot be. -/
lemma isInstrumented_eq (path : Path) : isInstrumented forbidden marker path =
    if marker = [] then throw .emptyMarker
    else tryCatch (do
        let data ← onDisk (readCandidate forbidden path)
        return (Marker.contains? marker Marker.defaultChunk data).getD false)
      fun fault => if fault.isItemFault then do
          journal .discovery .warning
            ("Skipping unreadable module " ++ path.text ++ ": " ++ fault.message)
          return false
        else throw fault := by
  unfold isInstrumented
  split
  · rfl
  · refine tryCatch_early ?_ fun fault => ?_
    · rw [bind_assoc]
      rfl
    · split
      · rw [bind_assoc]
        rfl
      · simp

lemma respects_isInstrumented (path : Path) :
    Respects (OnDisk Eq) (isInstrumented forbidden marker path) := by
  have hread : Respects Eq (readCandidate forbidden path) := by
    unfold readCandidate
    split
    · exact Respects.bind (Respects.throw _) fun _ => Disk.respects_read
    · exact Disk.respects_read
  rw [isInstrumented_eq]
  split
  · exact Respects.throw _
  · refine Respects.tryCatch (hread.onDisk.bind fun _ => Respects.pure _) fun fault => ?_
    split
    · exact (Respects.journal _ _ _).bind fun _ => Respects.pure _
    · exact Respects.throw _

lemma respects_modulesAmong : ∀ paths : List Path,
    Respects (OnDisk Eq) (modulesAmong forbidden marker paths)
  | [] => Respects.pure _
  | path :: rest => by
      refine (respects_isInstrumented path).bind fun instrumented => ?_
      split
      · exact (respects_pairing path).bind fun _ =>
          (respects_modulesAmong rest).bind fun _ => Respects.pure _
      · exact respects_modulesAmong rest

lemma sound_of_mem_modulesAmong : ∀ {paths : List Path} {modules : List Module} {w w' : World},
    (∀ path ∈ paths, Disk.Candidate path) →
    Ends (modulesAmong forbidden marker paths) w (.ok modules) w' → ∀ m ∈ modules, m.Sound
  | [], modules, _, _, _, h => by
      obtain rfl := Except.ok.inj (ends_pure.1 h).1
      simp
  | path :: rest, modules, w, w', hpaths, h => by
      rw [List.forall_mem_cons] at hpaths
      obtain ⟨instrumented, t, -, hrest⟩ := ends_bind_ok.1 h
      split at hrest
      · obtain ⟨found, t', hfound, hrest⟩ := ends_bind_ok.1 hrest
        obtain ⟨others, t'', hothers, hlast⟩ := ends_bind_ok.1 hrest
        obtain rfl := Except.ok.inj (ends_pure.1 hlast).1
        rw [List.forall_mem_cons]
        refine ⟨⟨hpaths.1.1, hpaths.1.2.1, hpaths.1.2.2, ir_of_pairing hfound⟩, ?_⟩
        exact sound_of_mem_modulesAmong hpaths.2 hothers
      · exact sound_of_mem_modulesAmong hpaths.2 hrest

/-- **A search changes nothing on the disk.** -/
theorem respects_discover (root : Path) :
    Respects (OnDisk Eq) (discover root marker forbidden) := by
  unfold discover
  refine (Disk.respects_leadsTo _).onDisk.bind fun found => ?_
  have hrest : Respects (OnDisk Eq) (do
      let base ← onDisk (Disk.resolve root)
      let found ← onDiskOr (fun error => .scan (.failed base error)) (Disk.candidates base)
      modulesAmong forbidden marker found) :=
    Disk.respects_resolve.onDisk.bind fun _ =>
      Disk.respects_candidates.onDiskOr.bind fun _ => respects_modulesAmong _
  split
  · exact hrest
  · exact Respects.bind (Respects.throw _) fun _ => hrest

/-- **A search that succeeds** looks through the candidates under the real root. -/
theorem ends_discover_ok {root : Path} {modules : List Module} :
    Ends (discover root marker forbidden) w (.ok modules) w' ↔
      (Disk.hasNul root = false ∧ w.disk.HasDirectory root) ∧ ∃ base paths,
        Ends (Disk.resolve root) w.disk (.ok base) w.disk ∧
        Ends (Disk.candidates base) w.disk (.ok paths) w.disk ∧
        Ends (modulesAmong forbidden marker paths) w (.ok modules) w' := by
  unfold discover
  constructor
  · intro h
    obtain ⟨found, t, hfound, hrest⟩ := ends_bind_ok.1 h
    obtain ⟨disk, haction, rfl⟩ := ends_onDisk_ok.1 hfound
    split at hrest
    · next htrue =>
        rw [htrue] at haction
        obtain ⟨hdir, rfl⟩ := Disk.ends_isDirectory_true.1 haction
        obtain ⟨base, t', hbase, hrest⟩ := ends_bind_ok.1 hrest
        obtain ⟨disk, hresolve, rfl⟩ := ends_onDisk_ok.1 hbase
        obtain rfl := Disk.respects_resolve _ _ _ hresolve
        obtain ⟨paths, t'', hpaths, hlast⟩ := ends_bind_ok.1 hrest
        obtain ⟨disk, hcandidates, rfl⟩ := ends_onDiskOr_ok.1 hpaths
        obtain rfl := Disk.respects_candidates _ _ _ hcandidates
        exact ⟨hdir, base, paths, hresolve, hcandidates, hlast⟩
    · obtain ⟨⟨⟩, t', hthrow, -⟩ := ends_bind_ok.1 hrest
      cases (ends_throw.1 hthrow).1
  · rintro ⟨hdir, base, paths, hresolve, hcandidates, hlast⟩
    refine Ends.bind (ends_onDisk_ok.2 ⟨w.disk, Disk.ends_isDirectory_true.2 ⟨hdir, rfl⟩, rfl⟩) ?_
    rw [if_pos rfl]
    refine Ends.bind (ends_onDisk_ok.2 ⟨w.disk, hresolve, rfl⟩) ?_
    exact Ends.bind (ends_onDiskOr_ok.2 ⟨w.disk, hcandidates, rfl⟩) hlast

/-- **Every module that is found is sound.** -/
theorem discover_sound {root : Path} {modules : List Module}
    (h : Ends (discover root marker forbidden) w (.ok modules) w') : ∀ m ∈ modules, m.Sound := by
  obtain ⟨-, base, paths, -, hcandidates, hlast⟩ := ends_discover_ok.1 h
  exact sound_of_mem_modulesAmong (Disk.candidate_of_mem_candidates hcandidates) hlast

end WasmCoverage
