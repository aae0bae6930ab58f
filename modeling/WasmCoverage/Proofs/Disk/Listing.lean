import WasmCoverage.Disk.Listing
import WasmCoverage.Proofs.Disk.Effects
import WasmCoverage.Proofs.Disk.Refusals

/-!
# Listings

What a listing of a directory answers, and that it changes nothing.
-/

namespace WasmCoverage.Disk

variable {disk disk' : Disk} {path : Path}

/-- The path leads to a file. -/
def isFileAt (disk : Disk) (path : Path) : Bool :=
  !hasNul path && (disk.content? path).isSome

lemma ends_isFile_ok {found : Bool} (h : Ends (isFile path) disk (.ok found) disk') :
    found = disk.isFileAt path ∧ disk' = disk := by
  have hsame : disk' = disk := (respects_leadsTo _ _ _ _ h).symm
  refine ⟨?_, hsame⟩
  cases hfile : disk.isFileAt path with
  | true =>
      simp only [isFileAt, Bool.and_eq_true, Bool.not_eq_true', Option.isSome_iff_exists] at hfile
      exact Except.ok.inj (h.unique (ends_isFile_true.2 ⟨hfile, rfl⟩)).1
  | false =>
      cases found with
      | false => rfl
      | true =>
          obtain ⟨⟨hnul, data, hcontent⟩, -⟩ := ends_isFile_true.1 h
          simp [isFileAt, hnul, hcontent] at hfile

/-- Only a path that is too long is too long to look at. -/
lemma look_eq_tooLong {follow : Bool} : disk.look path follow = .error .nameTooLong ↔
    disk.find path follow = .error .nameTooLong := by
  rw [look]
  cases disk.find path follow with
  | error cause => simp [bind, Except.bind]
  | ok location =>
    cases hnode : disk.node? location <;>
      simp [bind, Except.bind, hnode, throw, throwThe, MonadExceptOf.throw, pure, Except.pure]

/-- A path that is not too long can be asked about. -/
lemma ends_isFile_of_find (hfind : disk.find path true ≠ .error .nameTooLong) :
    Ends (isFile path) disk (.ok (disk.isFileAt path)) disk := by
  obtain ⟨r, disk', h⟩ := exists_ends (isFile path) disk
  cases r with
  | ok found =>
    obtain ⟨rfl, rfl⟩ := ends_isFile_ok h
    exact h
  | error error =>
    obtain ⟨-, -, hlook⟩ := ends_leadsTo_error h
    exact absurd (look_eq_tooLong.1 hlook) hfind

/-- **The files among some paths** are those that lead to files, if all paths can be asked about. -/
theorem ends_filesAmong_ok {paths files : List Path} :
    Ends (filesAmong paths) disk (.ok files) disk' ↔
      (∀ path ∈ paths, Ends (isFile path) disk (.ok (disk.isFileAt path)) disk) ∧
      files = paths.filter disk.isFileAt ∧ disk' = disk := by
  induction paths generalizing files disk' with
  | nil => exact ends_pure.trans (by simp)
  | cons path rest ih =>
    rw [List.forall_mem_cons, List.filter_cons]
    constructor
    · intro h
      obtain ⟨found, d, hfound, hrest⟩ := ends_bind_ok.1 h
      obtain ⟨rfl, rfl⟩ := ends_isFile_ok hfound
      obtain ⟨others, d', hothers, hlast⟩ := ends_bind_ok.1 hrest
      obtain ⟨hasked, rfl, rfl⟩ := ih.1 hothers
      obtain ⟨hfiles, rfl⟩ := ends_pure.1 hlast
      exact ⟨⟨hfound, hasked⟩, Except.ok.inj hfiles, rfl⟩
    · rintro ⟨⟨hfound, hasked⟩, rfl, rfl⟩
      exact hfound.bind ((ih.2 ⟨hasked, rfl, rfl⟩).bind (ends_pure.2 ⟨rfl, rfl⟩))

lemma respects_isFile : Respects Eq (isFile path) :=
  respects_leadsTo _

lemma respects_filesAmong : ∀ paths : List Path, Respects Eq (filesAmong paths)
  | [] => Respects.pure _
  | path :: rest => by
      refine respects_isFile.bind fun found => (respects_filesAmong rest).bind fun others => ?_
      exact Respects.pure _

/-- What a directory lists, as an action finds it. -/
def listed (disk : Disk) (path : Path) : Except Error (List Path) :=
  match disk.located path true with
  | .error error => .error error
  | .ok location =>
    match disk.node? location with
    | some .directory => .ok ((disk.children location).map fun entry => path.child entry.1)
    | some _ => .error (.system (Cause.notDirectory.about path))
    | none => .error (.system (Cause.missing.about path))

/-- **A listing** tells what is there and changes nothing. -/
theorem ends_listing {r : Except Error (List Path)} :
    Ends (listing path) disk r disk' ↔ r = disk.listed path ∧ disk' = disk := by
  have hrun : Ends (listing path) disk (disk.listed path) disk := by
    have hlocate : Ends (locate path true) disk (disk.located path true) disk :=
      ends_locate.2 ⟨rfl, rfl⟩
    unfold listed
    cases hlocated : disk.located path true with
    | error error =>
      rw [hlocated] at hlocate
      exact hlocate.bind_error
    | ok location =>
      rw [hlocated] at hlocate
      refine hlocate.bind (ends_get_bind.2 ?_)
      dsimp only
      cases disk.node? location with
      | none => exact ends_refuse.2 ⟨rfl, rfl⟩
      | some node =>
        cases node with
        | directory => exact ends_pure.2 ⟨rfl, rfl⟩
        | file _ _ => exact ends_refuse.2 ⟨rfl, rfl⟩
        | link _ => exact ends_refuse.2 ⟨rfl, rfl⟩
  constructor
  · exact fun h => h.unique hrun
  · rintro ⟨rfl, rfl⟩
    exact hrun

lemma respects_listing : Respects Eq (listing path) :=
  fun _ _ _ h => (ends_listing.1 h).2.symm

lemma ends_entriesOf {r : Except Error (List Path)} :
    Ends (entriesOf path) disk r disk' ↔ r = (disk.listed path).map Path.sort ∧ disk' = disk := by
  have hrun : Ends (entriesOf path) disk ((disk.listed path).map Path.sort) disk := by
    have hlisting : Ends (listing path) disk (disk.listed path) disk := ends_listing.2 ⟨rfl, rfl⟩
    cases hlisted : disk.listed path with
    | error error =>
      rw [hlisted] at hlisting
      exact hlisting.bind_error
    | ok paths =>
      rw [hlisted] at hlisting
      exact hlisting.bind (ends_pure.2 ⟨rfl, rfl⟩)
  constructor
  · exact fun h => h.unique hrun
  · rintro ⟨rfl, rfl⟩
    exact hrun

lemma respects_entriesOf : Respects Eq (entriesOf path) :=
  fun _ _ _ h => (ends_entriesOf.1 h).2.symm

/-- **A directory lists its children.** -/
theorem listed_eq_ok {paths : List Path} : disk.listed path = .ok paths ↔ ∃ location,
    (hasNul path = false ∧ disk.find path true = .ok location) ∧
      disk.node? location = some .directory ∧
      paths = (disk.children location).map fun entry => path.child entry.1 := by
  simp only [← located_eq_ok]
  unfold listed
  constructor
  · intro h
    split at h
    · cases h
    · next location hlocated =>
      split at h
      · next hdir => exact ⟨location, hlocated, hdir, (Except.ok.inj h).symm⟩
      · cases h
      · cases h
  · rintro ⟨location, hlocated, hdir, rfl⟩
    rw [hlocated]
    dsimp only
    rw [hdir]

lemma ends_listing_ok {paths : List Path} :
    Ends (listing path) disk (.ok paths) disk' ↔ ∃ location,
      (hasNul path = false ∧ disk.find path true = .ok location) ∧
      disk.node? location = some .directory ∧
      paths = (disk.children location).map (fun entry => path.child entry.1) ∧ disk' = disk := by
  rw [ends_listing, eq_comm, listed_eq_ok, exists_and_right.symm]
  simp only [and_assoc]

/-- **The entries of a directory** are its children in order. -/
theorem ends_entriesOf_ok {entries : List Path} :
    Ends (entriesOf path) disk (.ok entries) disk' ↔ ∃ location,
      (hasNul path = false ∧ disk.find path true = .ok location) ∧
      disk.node? location = some .directory ∧
      entries = Path.sort ((disk.children location).map fun entry => path.child entry.1) ∧
      disk' = disk := by
  constructor
  · intro h
    obtain ⟨paths, d, hlisted, hlast⟩ := ends_bind_ok.1 h
    obtain ⟨location, hfind, hdir, rfl, rfl⟩ := ends_listing_ok.1 hlisted
    obtain ⟨hentries, rfl⟩ := ends_pure.1 hlast
    exact ⟨location, hfind, hdir, Except.ok.inj hentries, rfl⟩
  · rintro ⟨location, hfind, hdir, rfl, rfl⟩
    exact (ends_listing_ok.2 ⟨location, hfind, hdir, rfl, rfl⟩).bind (ends_pure.2 ⟨rfl, rfl⟩)

lemma mem_entriesOf {entries : List Path} {entry : Path}
    (h : Ends (entriesOf path) disk (.ok entries) disk') (hentry : entry ∈ entries) :
    ∃ name, entry = path.child name := by
  obtain ⟨location, -, -, rfl, -⟩ := ends_entriesOf_ok.1 h
  obtain ⟨child, -, rfl⟩ := List.mem_map.1 (List.mem_mergeSort.1 hentry)
  exact ⟨child.1, rfl⟩

lemma respects_filesWithSuffix (suffix : String) : Respects Eq (filesWithSuffix path suffix) :=
  respects_listing.bind fun _ => (respects_filesAmong _).bind fun _ => Respects.pure _

/-- The paths of the entries of a directory that end in a suffix. -/
def listedWith (disk : Disk) (path : Path) (suffix : String) (location : Location) : List Path :=
  ((disk.children location).map fun entry => path.child entry.1).filter fun path =>
    hasSuffix suffix path.name

/-- **The files with a suffix** are those children that have it and lead to files, in order. -/
theorem ends_filesWithSuffix_ok {suffix : String} {files : List Path} :
    Ends (filesWithSuffix path suffix) disk (.ok files) disk' ↔ ∃ location,
      (hasNul path = false ∧ disk.find path true = .ok location) ∧
      disk.node? location = some .directory ∧
      (∀ child ∈ disk.listedWith path suffix location,
        Ends (isFile child) disk (.ok (disk.isFileAt child)) disk) ∧
      files = Path.sort ((disk.listedWith path suffix location).filter disk.isFileAt) ∧
      disk' = disk := by
  constructor
  · intro h
    obtain ⟨paths, d, hlisted, hrest⟩ := ends_bind_ok.1 h
    obtain ⟨location, hfind, hdir, rfl, rfl⟩ := ends_listing_ok.1 hlisted
    obtain ⟨found, d', hfound, hlast⟩ := ends_bind_ok.1 hrest
    obtain ⟨hasked, rfl, rfl⟩ := ends_filesAmong_ok.1 hfound
    obtain ⟨hfiles, rfl⟩ := ends_pure.1 hlast
    exact ⟨location, hfind, hdir, hasked, Except.ok.inj hfiles, rfl⟩
  · rintro ⟨location, hfind, hdir, hasked, rfl, rfl⟩
    exact (ends_listing_ok.2 ⟨location, hfind, hdir, rfl, rfl⟩).bind
      ((ends_filesAmong_ok.2 ⟨hasked, rfl, rfl⟩).bind (ends_pure.2 ⟨rfl, rfl⟩))

/-- A directory whose entries are in order is listed as it stands. -/
lemma ends_filesWithSuffix {suffix : String} {files : List Path} (location : Location)
    (hfind : hasNul path = false ∧ disk.find path true = .ok location)
    (hdir : disk.node? location = some .directory)
    (hsorted : ((disk.children location).map fun entry => path.child entry.1).Pairwise
      fun a b => a.before b)
    (hfiles : Ends (filesAmong (((disk.children location).map fun entry =>
      path.child entry.1).filter fun path => hasSuffix suffix path.name)) disk (.ok files) disk) :
    Ends (filesWithSuffix path suffix) disk (.ok files) disk := by
  have hinorder : Path.sort files = files := by
    obtain ⟨-, rfl, -⟩ := ends_filesAmong_ok.1 hfiles
    exact List.mergeSort_of_pairwise ((hsorted.filter _).filter _)
  refine (ends_listing_ok.2 ⟨location, hfind, hdir, rfl, rfl⟩).bind (hfiles.bind ?_)
  rw [hinorder]
  exact ends_pure.2 ⟨rfl, rfl⟩

lemma mem_filesWithSuffix {suffix : String} {files : List Path} {file : Path}
    (h : Ends (filesWithSuffix path suffix) disk (.ok files) disk') (hfile : file ∈ files) :
    (∃ name, file = path.child name) ∧ hasSuffix suffix file.name = true ∧
      disk.isFileAt file = true := by
  obtain ⟨location, -, -, -, rfl, -⟩ := ends_filesWithSuffix_ok.1 h
  obtain ⟨hmem, hthere⟩ := List.mem_filter.1 (List.mem_mergeSort.1 hfile)
  obtain ⟨hmem, hsuffix⟩ := List.mem_filter.1 hmem
  obtain ⟨entry, -, rfl⟩ := List.mem_map.1 hmem
  exact ⟨⟨entry.1, rfl⟩, hsuffix, hthere⟩

/-! ## The first file -/

lemma respects_firstFile (accepted : Path → Bool) : ∀ paths : List Path,
    Respects Eq (firstFile accepted paths)
  | [] => Respects.pure _
  | path :: rest => by
      refine respects_isFile.bind fun found => ?_
      split
      · split
        · exact Respects.pure _
        · exact respects_firstFile accepted rest
      · exact respects_firstFile accepted rest

/-- **The first file that is accepted** is found, if there is one. -/
theorem ends_firstFile_ok {accepted : Path → Bool} {found : Option Path} :
    ∀ {paths : List Path} {disk disk' : Disk},
      Ends (firstFile accepted paths) disk (.ok found) disk' →
      found = (paths.filter disk.isFileAt).find? accepted ∧ disk' = disk
  | [], disk, disk', h => by
      obtain ⟨hfound, rfl⟩ := ends_pure.1 h
      exact ⟨Except.ok.inj hfound, rfl⟩
  | path :: rest, disk, disk', h => by
      obtain ⟨file, d, hfile, hrest⟩ := ends_bind_ok.1 h
      obtain ⟨rfl, rfl⟩ := ends_isFile_ok hfile
      rw [List.filter_cons]
      split at hrest
      · next hthere =>
          rw [if_pos hthere, List.find?_cons]
          split at hrest
          · next haccepted =>
              obtain ⟨hfound, rfl⟩ := ends_pure.1 hrest
              rw [haccepted]
              exact ⟨Except.ok.inj hfound, rfl⟩
          · next haccepted =>
              rw [eq_false_of_ne_true haccepted]
              exact ends_firstFile_ok hrest
      · next hthere =>
          rw [if_neg hthere]
          exact ends_firstFile_ok hrest

lemma mem_of_firstFile {accepted : Path → Bool} {paths : List Path} {file : Path}
    (h : Ends (firstFile accepted paths) disk (.ok (some file)) disk') : file ∈ paths :=
  (List.mem_filter.1 (List.mem_of_find?_eq_some (ends_firstFile_ok h).1.symm)).1

/-- Paths that are not too long can be searched. -/
lemma ends_firstFile_of_find (accepted : Path → Bool) : ∀ paths : List Path,
    (∀ path ∈ paths, disk.find path true ≠ .error .nameTooLong) →
    ∃ found, Ends (firstFile accepted paths) disk (.ok found) disk
  | [], _ => ⟨none, ends_pure.2 ⟨rfl, rfl⟩⟩
  | path :: rest, h => by
      rw [List.forall_mem_cons] at h
      obtain ⟨found, hrest⟩ := ends_firstFile_of_find accepted rest h.2
      have hfile := ends_isFile_of_find h.1
      cases hthere : disk.isFileAt path with
      | false => exact ⟨found, hfile.bind (by rwa [hthere])⟩
      | true =>
        cases haccepted : accepted path with
        | false => exact ⟨found, hfile.bind (by rwa [hthere, if_pos rfl, haccepted])⟩
        | true =>
          refine ⟨some path, hfile.bind ?_⟩
          rw [hthere, if_pos rfl, haccepted]
          exact ends_pure.2 ⟨rfl, rfl⟩

end WasmCoverage.Disk
