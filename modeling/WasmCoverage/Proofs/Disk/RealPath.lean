import WasmCoverage.Proofs.Disk.Tree

/-!
# Real paths

A path that is resolved becomes the path of a location that no link leads to or lies above
(`Real`).  The names of such a location lead to it and nowhere else, so where directories are made
on a real path, the location itself is a directory afterwards (`stands_of_makeDirectories`).

All of this is about disks as they can be (`Sound`): trees that names lead through.
-/

namespace WasmCoverage.Disk

variable {disk disk' : Disk} {location reached : Location} {path : Path} {follow : Bool}

/-! ## Disks as they can be -/

/-- The disk is a tree, what its links say can be spelled, and the current directory is there. -/
structure Sound (disk : Disk) : Prop where
  tree : disk.IsTree
  target : ∀ location target, disk.node? location = some (.link target) → target.Spelled
  names : ∀ name ∈ disk.here, Path.IsName name
  stands : disk.node? disk.here = some .directory

/-- The start of a path is a directory. -/
lemma Sound.node?_start (h : disk.Sound) (anchor : Anchor) :
    disk.node? (disk.start anchor) = some .directory := by
  cases anchor with
  | relative => exact h.stands
  | root => rfl
  | doubleRoot => rfl

lemma IsTree.node?_tail (h : disk.IsTree) (hthere : disk.node? location ≠ none) :
    disk.node? location.tail = some .directory := by
  cases location with
  | nil => rfl
  | cons name directory => exact h name directory hthere

/-- Where a step ends, or stops at a link, there is a directory around. -/
lemma directory_around_steps (htree : disk.IsTree) {names : List String} {walk : Walk}
    (haround : disk.node? location.tail = some .directory) :
    disk.Steps follow location names walk →
    match walk with
    | .arrived reached => disk.node? reached.tail = some .directory
    | .linked directory _ _ => disk.node? directory = some .directory := by
  intro h
  induction h with
  | done => exact haround
  | up hdir _ ih => exact ih (htree.node?_tail (by simp [haround]))
  | down hdir _ _ _ _ ih => exact ih hdir
  | stop hdir => exact hdir
  | link hdir => exact hdir

lemma directory_around_walk (htree : disk.IsTree) : ∀ {spare : Nat} {location : Location}
    {names : List String}, disk.node? location.tail = some .directory →
    disk.walk follow spare location names = .ok reached →
    disk.node? reached.tail = some .directory
  | 0, _, _, _, h => by cases h
  | spare + 1, location, names, haround, h => by
      rcases walk_succ_eq_ok_iff.1 h with hstep | ⟨directory, target, rest, hstep, hrest⟩
      · exact directory_around_steps htree haround hstep
      · have hstop := directory_around_steps htree haround hstep
        refine directory_around_walk htree ?_ hrest
        split
        · rfl
        · exact htree.node?_tail (by simp [show disk.node? directory = _ from hstop])

/-- **A path leads into a directory.** -/
theorem Sound.directory_around (h : disk.Sound) (hfind : disk.find path follow = .ok reached) :
    disk.node? reached.tail = some .directory := by
  refine directory_around_walk h.tree ?_ (find_eq_ok_iff.1 hfind).2
  exact h.tree.node?_tail (by simp [h.node?_start])

/-- If one disk is as it can be, so is the other. -/
def KeepsSound (before after : Disk) : Prop :=
  before.Sound → after.Sound

instance : Std.Refl KeepsSound :=
  ⟨fun _ h => h⟩

instance : IsTrans Disk KeepsSound :=
  ⟨fun _ _ _ h h' hsound => h' (h hsound)⟩

lemma Sound.put (h : disk.Sound) (hfind : disk.find path follow = .ok location)
    (hnone : disk.node? location = none) : (disk.put location .directory).Sound := by
  have hgrows := grows_put hnone
  have haround := h.directory_around hfind
  refine ⟨?_, fun place target hlink => ?_, h.names, hgrows.node?_eq h.stands⟩
  · cases location with
    | nil => cases hnone
    | cons name directory => exact h.tree.put haround hnone
  · rcases hgrows.node place with heq | ⟨-, hdir⟩
    · exact h.target place target (heq ▸ hlink)
    · rw [hdir] at hlink
      cases hlink

lemma keepsSound_makeDirectory : Respects KeepsSound (makeDirectory path) := by
  intro disk r disk' h hsound
  rcases makeDirectory_spec h with ⟨-, rfl⟩ | ⟨-, -, location, hfind, hnone, rfl⟩
  · exact hsound
  · exact hsound.put hfind hnone

/-- **Directories may be made anywhere.** -/
theorem keepsSound_makeDirectories : Respects KeepsSound (makeDirectories path) :=
  respects_makeDirectoriesFrom (fun _ => keepsSound_makeDirectory) _ _

/-! ## Real locations -/

/-- Names lead to the location, and no link. -/
structure Real (disk : Disk) (location : Location) : Prop where
  names : ∀ name ∈ location, Path.IsName name
  noLink : ∀ place, place <:+ location → disk.NoLink place

lemma Real.tail (h : disk.Real location) : disk.Real location.tail :=
  ⟨fun name hname => h.names name (List.mem_of_mem_tail hname),
    fun place hplace => h.noLink place (hplace.trans (List.tail_suffix location))⟩

lemma Real.cons {name : String} (h : disk.Real location) (hname : Path.IsName name)
    (hlink : disk.NoLink (name :: location)) : disk.Real (name :: location) := by
  refine ⟨List.forall_mem_cons.2 ⟨hname, h.names⟩, fun place hplace => ?_⟩
  rcases List.suffix_cons_iff.1 hplace with rfl | hbelow
  · exact hlink
  · exact h.noLink place hbelow

lemma Real.grows (h : disk.Real location) (hgrows : Grows disk disk') : disk'.Real location := by
  refine ⟨h.names, fun place hplace target => ?_⟩
  rcases hgrows.node place with heq | ⟨-, hdir⟩
  · rw [heq]
    exact h.noLink place hplace target
  · simp [hdir]

/-- A directory of a tree is real, if names lead to it. -/
lemma IsTree.real (h : disk.IsTree) (hdir : disk.node? location = some .directory)
    (hnames : ∀ name ∈ location, Path.IsName name) : disk.Real location :=
  ⟨hnames, fun place hplace target => by simp [h.stands hdir place hplace]⟩

lemma Sound.real_start (h : disk.Sound) (anchor : Anchor) : disk.Real (disk.start anchor) := by
  refine h.tree.real (h.node?_start anchor) ?_
  cases anchor with
  | relative => exact h.names
  | root => simp [start]
  | doubleRoot => simp [start]

/-- **Behind links there is a real location.** -/
theorem Sound.real_behindLinks (h : disk.Sound) {spare : Nat} {names : List String}
    (hlocation : disk.Real location) (hnames : ∀ name ∈ names, name ≠ ".." → Path.IsName name)
    (hbehind : disk.behindLinks spare location names = some reached) : disk.Real reached := by
  fun_induction behindLinks disk spare location names generalizing reached with
  | case1 => exact Option.some.inj hbehind ▸ hlocation
  | case2 spare location rest ih =>
      rw [List.forall_mem_cons] at hnames
      exact ih hlocation.tail hnames.2 hbehind
  | case3 => cases hbehind
  | case4 location name rest hup target spare hlink first ihTarget =>
      rename_i ihRest
      rw [List.forall_mem_cons] at hnames
      obtain ⟨inner, hinner, hrest⟩ := Option.bind_eq_some_iff.1 hbehind
      have hfirst : disk.Real first := by
        unfold first
        split
        · exact h.real_start .root
        · exact hlocation
      exact ihRest inner (ihTarget hfirst (h.target _ _ hlink) hinner) hnames.2 hrest
  | case5 location name rest hup spare hnone hsome ih =>
      rw [List.forall_mem_cons] at hnames
      refine ih (hlocation.cons (hnames.1 hup) fun target hlink => ?_) hnames.2 hbehind
      cases spare with
      | zero => exact hnone target hlink rfl
      | succ spare => exact hsome target spare hlink rfl

/-! ## Resolving -/

lemma respects_resolve : Respects Eq (resolve path) := by
  unfold resolve
  split
  · refine (Respects.throw _).bind fun _ => Respects.get.bind fun _ => ?_
    split
    · exact Respects.pure _
    · exact Respects.throw _
  · refine Respects.get.bind fun _ => ?_
    split
    · exact Respects.pure _
    · exact Respects.throw _

/-- **The real path behind a path** is that of the location behind all links. -/
theorem ends_resolve_ok {real : Path} : Ends (resolve path) disk (.ok real) disk' ↔
    (hasNul path = false ∧ ∃ location, disk.behindLinks disk.linkCount (disk.start path.anchor)
      path.names = some location ∧ real = pathOf location) ∧ disk' = disk := by
  unfold resolve
  by_cases hnul : hasNul path = true
  · simp [hnul]
  · simp only [hnul, Bool.false_eq_true, if_false, ends_bind_ok, ends_get, Except.ok.injEq,
      and_assoc, exists_and_left, exists_eq_left]
    cases hlocation : disk.behindLinks disk.linkCount (disk.start path.anchor) path.names with
    | none => simp
    | some location => simp

/-- **A path that can be spelled is resolved to the path of a real location.** -/
theorem Sound.real_resolve (h : disk.Sound) (hpath : path.Spelled) {real : Path}
    (hresolve : Ends (resolve path) disk (.ok real) disk') :
    ∃ location, disk.Real location ∧ real = pathOf location ∧ disk' = disk := by
  obtain ⟨⟨-, location, hbehind, rfl⟩, rfl⟩ := ends_resolve_ok.1 hresolve
  exact ⟨location, h.real_behindLinks (h.real_start _) hpath hbehind, rfl, rfl⟩

/-! ## Walking to real locations -/

lemma child_pathOf (location : Location) {name : String} (h : Path.IsName name) :
    (pathOf location).child name = pathOf (name :: location) := by
  rw [Path.child_of_isName _ h]
  simp [pathOf]

lemma parent_pathOf (name : String) (directory : Location) :
    (pathOf (name :: directory)).parent = pathOf directory := by
  simp [Path.parent, pathOf]

lemma hasNul_pathOf {place : Location} (h : ∀ n ∈ place, '\x00' ∉ n.toList) :
    hasNul (pathOf place) = false := by
  simpa [hasNul, pathOf] using h

lemma hasNul_pathOf_cons {name : String} {directory : Location} :
    hasNul (pathOf (name :: directory)) = false ↔
      '\x00' ∉ name.toList ∧ hasNul (pathOf directory) = false := by
  simp [hasNul, pathOf, and_comm]

/-- A walk through the names of a real location does not stop on its way. -/
lemma Real.eq_of_steps {names : List String} {walk : Walk}
    (hreal : disk.Real (names.reverse ++ location)) (h : disk.Steps follow location names walk) :
    walk = .arrived (names.reverse ++ location) := by
  have hlocation (name : String) (rest : List String) (location : Location) :
      (name :: rest).reverse ++ location = rest.reverse ++ name :: location := by
    simp
  have hnolink {name : String} {rest : List String} {location : Location}
      (hreal : disk.Real ((name :: rest).reverse ++ location)) : disk.NoLink (name :: location) :=
    hreal.noLink _ (hlocation name rest location ▸ List.suffix_append _ _)
  induction h with
  | done => rfl
  | up => exact absurd rfl (hreal.names ".." (by simp)).ne_up
  | down _ _ _ _ _ ih =>
      rw [hlocation] at hreal ⊢
      exact ih hreal
  | stop _ _ _ hlink _ => exact absurd hlink (hnolink hreal _)
  | link _ _ _ hlink _ => exact absurd hlink (hnolink hreal _)

/-- **The path of a real location leads there,** if it leads anywhere. -/
theorem Real.eq_of_find (hreal : disk.Real location)
    (h : disk.find (pathOf location) follow = .ok reached) : reached = location := by
  obtain ⟨walk, hstep, hrest⟩ := bind_eq_ok_iff.1 (find_eq_ok_iff.1 h).2
  have hnames : (pathOf location).names.reverse ++ [] = location := by simp [pathOf]
  obtain rfl := Real.eq_of_steps (by rwa [← hnames] at hreal) (step_eq_ok_iff.1 hstep)
  exact (Except.ok.inj hrest).symm.trans hnames

/-- **Where directories are made on a real path,** its location is one. -/
theorem Real.stands_of_makeDirectories (hreal : disk.Real location)
    (h : Ends (makeDirectories (pathOf location)) disk (.ok ()) disk') :
    disk'.node? location = some .directory := by
  cases location with
  | nil => rfl
  | cons name directory =>
      obtain ⟨-, reached, hfind, hdir⟩ := hasDirectory_makeDirectories (by simp [pathOf]) h
      obtain rfl := (hreal.grows (respects_makeDirectories _ _ _ h)).eq_of_find hfind
      exact hdir

end WasmCoverage.Disk
