import WasmCoverage.Proofs.Disk.Entries
import WasmCoverage.Proofs.Disk.Reordered

/-!
# Disks that agree in a region

Two disks may have the same in some places and anything in others.  A place can be found without
looking elsewhere if the way to it keeps to the region and meets no link: it is `Straight`.  There
both disks are read alike (`Agree.find_eq`), and a directory all of whose entries are in the region
is listed alike, in whatever order the two tables have them (`same_entriesOf`).
-/

namespace WasmCoverage.Disk

variable {region : Location → Prop} {disk other : Disk} {location : Location} {name : String}

/-- The disks have the same in the places of the region. -/
structure Agree (region : Location → Prop) (disk other : Disk) : Prop where
  here : other.here = disk.here
  node : ∀ location, region location → other.node? location = disk.node? location

/-- The way to the place does not go out again, does not leave the region and meets no link. -/
structure Straight (region : Location → Prop) (disk : Disk) (location : Location) : Prop where
  names : ".." ∉ location
  keeps : ∀ place, place <:+ location → region place
  noLink : ∀ place, place <:+ location → disk.NoLink place

/-! ## Finding -/

/-- A straight way is the same on both disks, and ends where its names say. -/
lemma Agree.step_eq (h : Agree region disk other) (follow : Bool) : ∀ (names : List String)
    (base : Location), Straight region disk (names.reverse ++ base) →
    other.step follow base names = disk.step follow base names ∧
      ∀ walk, disk.step follow base names = .ok walk → walk = .arrived (names.reverse ++ base)
  | [], base, _ => by
      refine ⟨rfl, fun walk hwalk => ?_⟩
      rw [step] at hwalk
      exact (Except.ok.inj hwalk).symm
  | name :: rest, base, hstraight => by
      have hway : (name :: rest).reverse ++ base = rest.reverse ++ name :: base := by simp
      rw [hway] at hstraight ⊢
      obtain ⟨heq, hend⟩ := h.step_eq follow rest (name :: base) hstraight
      have hnext : name :: base <:+ rest.reverse ++ name :: base := List.suffix_append _ _
      have hbase := h.node base (hstraight.keeps _ ((List.suffix_cons name base).trans hnext))
      have hplace := h.node (name :: base) (hstraight.keeps _ hnext)
      have hup : name ≠ ".." := by
        rintro rfl
        exact hstraight.names (by simp)
      have hlink := hstraight.noLink _ hnext
      simp only [step, hbase, hplace, heq, if_neg hup, true_and]
      intro walk hwalk
      split at hwalk
      · cases hwalk
      · split at hwalk
        · cases hwalk
        · split at hwalk
          · next target htarget => exact absurd htarget (hlink target)
          · exact hend walk hwalk
      · cases hwalk

/-- **A straight way leads to the same place**, if it leads anywhere. -/
theorem Agree.find_eq (h : Agree region disk other) (hstraight : Straight region disk location)
    (follow : Bool) : other.find (pathOf location) follow = disk.find (pathOf location) follow ∧
      ∀ reached, disk.find (pathOf location) follow = .ok reached → reached = location := by
  have hway : Straight region disk (location.reverse.reverse ++ []) := by
    rwa [List.reverse_reverse, List.append_nil]
  obtain ⟨heq, hend⟩ := h.step_eq follow location.reverse [] hway
  rw [List.reverse_reverse, List.append_nil] at hend
  have hfind (disk : Disk) : disk.find (pathOf location) follow =
      if (pathOf location).text.utf8ByteSize > pathLimit then .error .nameTooLong
      else disk.walk follow (linkLimit + 1) [] location.reverse := rfl
  rw [hfind, hfind, walk, walk, heq]
  split
  · exact ⟨rfl, fun reached hreached => by cases hreached⟩
  · cases hstep : disk.step follow [] location.reverse with
    | error cause =>
        change (.error cause : Except Cause Location) = .error cause ∧
          ∀ reached, (.error cause : Except Cause Location) = .ok reached → _
        exact ⟨rfl, fun reached hreached => by cases hreached⟩
    | ok walk =>
        obtain rfl := hend walk hstep
        change (.ok location : Except Cause Location) = .ok location ∧
          ∀ reached, (.ok location : Except Cause Location) = .ok reached → _
        exact ⟨rfl, fun reached hreached => (Except.ok.inj hreached).symm⟩

lemma Agree.look_eq (h : Agree region disk other) (hstraight : Straight region disk location)
    (follow : Bool) : other.look (pathOf location) follow = disk.look (pathOf location) follow := by
  obtain ⟨heq, hend⟩ := h.find_eq hstraight follow
  rw [look, look, heq]
  cases hfind : disk.find (pathOf location) follow with
  | error cause => rfl
  | ok reached =>
      obtain rfl := hend reached hfind
      have hnode := h.node reached (hstraight.keeps _ List.suffix_rfl)
      simp only [bind, Except.bind, hnode]

/-- **A file that a straight way leads to has the same content.** -/
theorem Agree.content?_eq (h : Agree region disk other)
    (hstraight : Straight region disk location) :
    other.content? (pathOf location) = disk.content? (pathOf location) := by
  rw [content?, content?, h.look_eq hstraight]

/-! ## Reading -/

/-- The action reads both disks alike and changes neither. -/
abbrev Same {α : Type} (action : Action α) (disk other : Disk) : Prop :=
  Paired (fun disk' other' => disk' = disk ∧ other' = other) action action disk other

lemma same_bind {α β : Type} {action : Action α} {f : α → Action β}
    (h : Same action disk other)
    (hf : ∀ a, Ends action disk (.ok a) disk → Same (f a) disk other) :
    Same (action >>= f) disk other := by
  refine h.bind_of_ends fun a disk' other' hend hsame => ?_
  obtain ⟨rfl, rfl⟩ := hsame
  exact hf a hend

lemma same_pure {α : Type} (a : α) : Same (pure a : Action α) disk other :=
  .pure a ⟨rfl, rfl⟩

lemma same_leadsTo (h : Agree region disk other) (hstraight : Straight region disk location)
    (kind : Node → Bool) : Same (leadsTo kind (pathOf location)) disk other := by
  unfold leadsTo
  split
  · exact same_pure _
  · refine .get_bind ?_
    rw [h.look_eq hstraight]
    split
    · exact same_pure _
    · exact .throw _ ⟨rfl, rfl⟩
    · exact same_pure _

/-- **A file is looked for alike.** -/
theorem same_firstFile {accepted : Path → Bool} : ∀ {paths : List Path},
    (∀ path ∈ paths, Same (isFile path) disk other) → Same (firstFile accepted paths) disk other
  | [], _ => same_pure _
  | path :: rest, hpaths => by
      rw [List.forall_mem_cons] at hpaths
      refine same_bind hpaths.1 fun _ _ => ?_
      split
      · split
        · exact same_pure _
        · exact same_firstFile hpaths.2
      · exact same_firstFile hpaths.2

/-- A directory of the region has the same entries on both disks. -/
lemma Agree.children_perm (h : Agree region disk other) (hdistinct : disk.Distinct)
    (hdistinct' : other.Distinct) (hentries : ∀ name, region (name :: location)) :
    (other.children location).Perm (disk.children location) := by
  have hnodup {disk : Disk} (h : disk.Distinct) : (disk.children location).Nodup :=
    List.Nodup.of_map Prod.fst (nodup_children h location)
  refine (List.perm_ext_iff_of_nodup (hnodup hdistinct') (hnodup hdistinct)).2 ?_
  rintro ⟨name, node⟩
  rw [mem_children hdistinct', mem_children hdistinct, h.node _ (hentries name)]

/-- **A directory of the region is listed alike.** -/
theorem same_entriesOf (h : Agree region disk other) (hstraight : Straight region disk location)
    (hdistinct : disk.Distinct) (hdistinct' : other.Distinct)
    (hentries : ∀ name, region (name :: location)) :
    Same (entriesOf (pathOf location)) disk other := by
  intro r disk' hend
  obtain ⟨rfl, rfl⟩ := ends_entriesOf.1 hend
  obtain ⟨heq, hreached⟩ := h.find_eq hstraight true
  refine ⟨other, ends_entriesOf.2 ⟨?_, rfl⟩, rfl, rfl⟩
  unfold listed
  rw [show other.located (pathOf location) true = disk'.located (pathOf location) true by
    rw [located, located, heq]]
  split
  · rfl
  · next reached hlocated =>
    obtain rfl := hreached reached (located_eq_ok.1 hlocated).2
    rw [h.node _ (hstraight.keeps _ List.suffix_rfl)]
    split
    · refine congrArg Except.ok (Path.sort_eq_of_perm
        ((h.children_perm hdistinct hdistinct' hentries).symm.map _) fun child hchild => ?_)
      obtain ⟨entry, -, rfl⟩ := List.mem_map.1 hchild
      exact Path.isAbsolute_child rfl entry.1
    · rfl
    · rfl

/-- The paths of the entries of a directory. -/
lemma exists_name_of_entriesOf {entries : List Path} {disk' : Disk} (hdistinct : disk.Distinct)
    (hnames : ∀ name, disk.node? (name :: location) ≠ none → Path.IsName name)
    (hreached : ∀ reached, disk.find (pathOf location) true = .ok reached → reached = location)
    (h : Ends (entriesOf (pathOf location)) disk (.ok entries) disk') {entry : Path}
    (hentry : entry ∈ entries) : ∃ name, Path.IsName name ∧
      disk.node? (name :: location) ≠ none ∧ entry = pathOf (name :: location) := by
  obtain ⟨reached, ⟨-, hfind⟩, -, rfl, -⟩ := ends_entriesOf_ok.1 h
  obtain rfl := hreached reached hfind
  rw [Path.sort, List.mem_mergeSort, List.mem_map] at hentry
  obtain ⟨⟨name, node⟩, hmem, rfl⟩ := hentry
  have hthere : disk.node? (name :: reached) ≠ none := by simp [(mem_children hdistinct).1 hmem]
  exact ⟨name, hnames name hthere, hthere, child_pathOf _ (hnames name hthere)⟩

/-- A directory of the region, all of whose entries are there too and have proper names. -/
structure Legible (region : Location → Prop) (disk : Disk) (location : Location) : Prop where
  straight : Straight region disk location
  region : ∀ name, region (name :: location)
  isName : ∀ name, disk.node? (name :: location) ≠ none → Path.IsName name
  noLink : ∀ name, disk.NoLink (name :: location)

lemma Legible.entry (h : Legible region disk location) (hname : name ≠ "..") :
    Straight region disk (name :: location) where
  names := by
    rw [List.mem_cons, not_or]
    exact ⟨Ne.symm hname, h.straight.names⟩
  keeps place hplace := by
    rcases List.suffix_cons_iff.1 hplace with rfl | hplace
    · exact h.region name
    · exact h.straight.keeps place hplace
  noLink place hplace := by
    rcases List.suffix_cons_iff.1 hplace with rfl | hplace
    · exact h.noLink name
    · exact h.straight.noLink place hplace

section Legible

variable (h : Agree region disk other) (hlegible : Legible region disk location)
  (hdistinct : disk.Distinct) (hdistinct' : other.Distinct)

include h hlegible hdistinct

/-- Its entries are found under the names that they have. -/
lemma Legible.of_mem {entries : List Path}
    (hend : Ends (entriesOf (pathOf location)) disk (.ok entries) disk) {entry : Path}
    (hentry : entry ∈ entries) : ∃ name, Path.IsName name ∧
      disk.node? (name :: location) ≠ none ∧ entry = pathOf (name :: location) :=
  exists_name_of_entriesOf hdistinct hlegible.isName (h.find_eq hlegible.straight true).2 hend
    hentry

omit h in
lemma Legible.of_mem_listedWith {suffix : String} {child : Path}
    (hchild : child ∈ disk.listedWith (pathOf location) suffix location) :
    ∃ name, Path.IsName name ∧ child = pathOf (name :: location) := by
  obtain ⟨⟨name, node⟩, hmem, rfl⟩ := List.mem_map.1 (List.mem_of_mem_filter hchild)
  have hname := hlegible.isName name (by simp [(mem_children hdistinct).1 hmem])
  exact ⟨name, hname, child_pathOf _ hname⟩

/-- So are its files. -/
lemma Legible.of_mem_files {suffix : String} {files : List Path}
    (hend : Ends (filesWithSuffix (pathOf location) suffix) disk (.ok files) disk) {file : Path}
    (hfile : file ∈ files) : ∃ name, Path.IsName name ∧ file = pathOf (name :: location) := by
  obtain ⟨reached, ⟨-, hfind⟩, -, -, rfl, -⟩ := ends_filesWithSuffix_ok.1 hend
  obtain rfl := (h.find_eq hlegible.straight true).2 _ hfind
  exact hlegible.of_mem_listedWith hdistinct (List.mem_of_mem_filter (List.mem_mergeSort.1 hfile))

include hdistinct'

/-- **Its files are listed alike**, if they are. -/
theorem same_files_of_ends {suffix : String} {files : List Path}
    (hend : Ends (filesWithSuffix (pathOf location) suffix) disk (.ok files) disk) :
    Ends (filesWithSuffix (pathOf location) suffix) other (.ok files) other := by
  obtain ⟨reached, ⟨hclean, hfind⟩, hdir, hasked, rfl, -⟩ := ends_filesWithSuffix_ok.1 hend
  obtain ⟨heq, hreached⟩ := h.find_eq hlegible.straight true
  obtain rfl := hreached _ hfind
  have hlisted : (other.listedWith (pathOf reached) suffix reached).Perm
      (disk.listedWith (pathOf reached) suffix reached) :=
    ((h.children_perm hdistinct hdistinct' hlegible.region).map _).filter _
  have hfile (child : Path) (hchild : child ∈ disk.listedWith (pathOf reached) suffix reached) :
      Ends (isFile child) other (.ok (disk.isFileAt child)) other := by
    obtain ⟨name, hname, rfl⟩ := hlegible.of_mem_listedWith hdistinct hchild
    obtain ⟨other', hend', -, rfl⟩ := same_leadsTo h (hlegible.entry hname.ne_up) _ _ _
      (hasked _ hchild)
    exact hend'
  have hsame (child : Path) (hchild : child ∈ disk.listedWith (pathOf reached) suffix reached) :
      other.isFileAt child = disk.isFileAt child :=
    (ends_isFile_ok (hfile child hchild)).1.symm
  refine ends_filesWithSuffix_ok.2 ⟨reached, ⟨hclean, heq.trans hfind⟩,
    (h.node _ (hlegible.straight.keeps _ List.suffix_rfl)).trans hdir, fun child hchild => ?_, ?_,
    rfl⟩
  · rw [hsame child (hlisted.subset hchild)]
    exact hfile child (hlisted.subset hchild)
  · rw [List.filter_congr fun child hchild => (hsame child hchild).symm]
    refine Path.sort_eq_of_perm (hlisted.symm.filter _) fun child hchild => ?_
    obtain ⟨name, -, rfl⟩ := hlegible.of_mem_listedWith hdistinct (List.mem_of_mem_filter hchild)
    rfl

end Legible

end WasmCoverage.Disk
