import WasmCoverage.Proofs.Disk.Directories

/-!
# Disks that are trees

On a disk that is a tree, whatever is there lies in a directory.  So everything above a directory
is a directory, and nothing is below a file or a link.

* **Below a directory that stands, a path needs no walk** (`find_entry`): the path of the names of
  a location leads to that location, and whether it is too long does not depend on the disk.
* **Removing** a file or a link takes away that one entry (`removeIfThere_entry`), and making a
  directory in one that stands puts it there or finds one (`makeDirectories_entry`).
-/

namespace WasmCoverage.Disk

variable {disk disk' : Disk} {location place : Location} {name : String} {path : Path}

/-- The path of a location says which location it is. -/
lemma pathOf_inj {a b : Location} (h : pathOf a = pathOf b) : a = b :=
  List.reverse_inj.1 (Path.mk.inj h).2

/-! ## Trees -/

/-- Whatever is there lies in a directory. -/
def IsTree (disk : Disk) : Prop :=
  ∀ name directory, disk.node? (name :: directory) ≠ none →
    disk.node? directory = some .directory

/-- The location and everything above it are directories. -/
def Stands (disk : Disk) (location : Location) : Prop :=
  ∀ place, place <:+ location → disk.node? place = some .directory

/-- It is enough to look at the entries. -/
lemma isTree_of_entries (h : ∀ entry ∈ disk.entries,
    disk.node? entry.1.tail = some .directory) : disk.IsTree := by
  intro name directory hthere
  obtain ⟨node, hnode⟩ := Option.ne_none_iff_exists'.1 hthere
  rw [node?, if_neg (List.cons_ne_nil _ _)] at hnode
  exact h _ (mem_of_get? hnode)

lemma IsTree.directory_above (h : disk.IsTree) : ∀ {location : Location},
    disk.node? location ≠ none → place <:+ location → place ≠ location →
    disk.node? place = some .directory
  | [], _, hsuffix, hne => absurd (List.suffix_nil.1 hsuffix) hne
  | name :: directory, hthere, hsuffix, hne => by
      have hdir := h name directory hthere
      have hbelow : place <:+ directory := (List.suffix_cons_iff.1 hsuffix).resolve_left hne
      by_cases heq : place = directory
      · rw [heq, hdir]
      · exact h.directory_above (by simp [hdir]) hbelow heq

/-- **Everything above a directory is a directory.** -/
theorem IsTree.stands (h : disk.IsTree) (hdir : disk.node? location = some .directory) :
    disk.Stands location := by
  intro place hsuffix
  by_cases heq : place = location
  · rw [heq, hdir]
  · exact h.directory_above (by simp [hdir]) hsuffix heq

/-- **Nothing is below what is no directory.** -/
theorem IsTree.node?_below (h : disk.IsTree) (hnode : disk.node? place ≠ some .directory)
    (hsuffix : place <:+ location) (hne : location ≠ place) : disk.node? location = none := by
  by_contra hthere
  exact hnode (h.directory_above hthere hsuffix hne.symm)

lemma IsTree.none_below (h : disk.IsTree) (hnone : disk.node? place = none)
    (hsuffix : place <:+ location) : disk.node? location = none := by
  by_cases heq : location = place
  · rw [heq, hnone]
  · exact h.node?_below (by simp [hnone]) hsuffix heq

/-- Files in directories may come and go. -/
lemma IsTree.refiles {places : Location → Prop} (h : disk.IsTree)
    (hrefiles : Refiles places disk disk') (hplaces : ∀ name directory,
      places (name :: directory) → disk.node? directory = some .directory) : disk'.IsTree := by
  intro name directory hthere
  refine hrefiles.keeps.directory directory ?_
  rcases hrefiles.node (name :: directory) with heq | ⟨hplace, -, -⟩
  · exact h name directory (heq ▸ hthere)
  · exact hplaces name directory hplace

/-- A new directory may be put into a directory. -/
lemma IsTree.put (h : disk.IsTree) (hdir : disk.node? location = some .directory)
    (hnone : disk.node? (name :: location) = none) :
    (disk.put (name :: location) .directory).IsTree := by
  have hgrows := grows_put hnone
  intro other directory hthere
  refine hgrows.node?_eq ?_
  rw [node?_put (List.cons_ne_nil _ _)] at hthere
  split at hthere
  · next heq =>
      obtain ⟨-, rfl⟩ := List.cons.inj heq
      exact hdir
  · exact h other directory hthere

lemma IsTree.drop (h : disk.IsTree) (hne : place ≠ []) : (disk.drop place).IsTree := by
  intro name directory hthere
  have hkept : ¬ place <:+ name :: directory := fun hsuffix =>
    hthere (node?_drop_of_suffix disk hne hsuffix)
  have habove : ¬ place <:+ directory := fun hsuffix =>
    hkept (hsuffix.trans (List.suffix_cons _ _))
  rw [node?_drop_of_not_suffix disk hkept] at hthere
  rw [node?_drop_of_not_suffix disk habove]
  exact h name directory hthere

/-! ## Paths below a directory that stands -/

/-- A walk through names of directories goes on behind them, unless one of the names is too
long. -/
lemma step_stands {follow : Bool} (rest : List String) : ∀ {names : List String}
    {base : Location}, (∀ n ∈ names, Path.IsName n) → disk.Stands (names.reverse ++ base) →
    disk.step follow base (names ++ rest) =
      if ∃ n ∈ names, n.utf8ByteSize > nameLimit then .error .nameTooLong
      else disk.step follow (names.reverse ++ base) rest
  | [], base, _, _ => by simp
  | n :: names, base, hnames, hstands => by
      rw [List.forall_mem_cons] at hnames
      have hlocation : (n :: names).reverse ++ base = names.reverse ++ n :: base := by simp
      rw [hlocation] at hstands ⊢
      have hhere : disk.node? (n :: base) = some .directory := hstands _ (List.suffix_append _ _)
      have hdir : disk.node? base = some .directory :=
        hstands _ ((List.suffix_cons _ _).trans (List.suffix_append _ _))
      rw [List.cons_append, step_cons hdir, if_neg hnames.1.ne_up, hhere,
        step_stands rest hnames.2 hstands]
      by_cases hlong : n.utf8ByteSize > nameLimit
      · simp [hlong]
      · simp [hlong]

/-- The path of a location is too long, or one of its names is. -/
def TooLong (location : Location) : Prop :=
  (pathOf location).text.utf8ByteSize > pathLimit ∨
    ∃ n ∈ location, n.utf8ByteSize > nameLimit

instance (location : Location) : Decidable (TooLong location) :=
  inferInstanceAs (Decidable (_ ∨ _))

/-- A step to an entry of a directory that stands. -/
lemma step_entry {follow : Bool} (hstands : disk.Stands location)
    (hnames : ∀ n ∈ name :: location, Path.IsName n) :
    disk.step follow [] (pathOf (name :: location)).names =
      if ∃ n ∈ name :: location, n.utf8ByteSize > nameLimit then .error .nameTooLong
      else
        match disk.node? (name :: location) with
        | some (.link target) =>
          if follow then .ok (.linked location target []) else .ok (.arrived (name :: location))
        | _ => .ok (.arrived (name :: location)) := by
  rw [List.forall_mem_cons] at hnames
  have hpath : (pathOf (name :: location)).names = location.reverse ++ [name] := by
    simp [pathOf]
  rw [hpath, step_stands [name] (by simpa using hnames.2) (by simpa using hstands),
    List.reverse_reverse, List.append_nil, step_cons (hstands _ (List.suffix_refl _)),
    if_neg hnames.1.ne_up]
  by_cases houter : ∃ n ∈ location, n.utf8ByteSize > nameLimit
  · simp [houter]
  · by_cases hname : name.utf8ByteSize > nameLimit
    · simp [houter, hname]
    · simp only [List.mem_reverse, houter, if_false, hname, List.mem_cons, exists_eq_or_imp,
        or_self, List.isEmpty_nil, Bool.true_and]
      cases follow <;> rfl

/-- A path that is too long leads nowhere. -/
lemma find_of_tooLong {follow : Bool} {reached : Location} (hstands : disk.Stands location)
    (hnames : ∀ n ∈ name :: location, Path.IsName n) (hlong : TooLong (name :: location)) :
    disk.find (pathOf (name :: location)) follow ≠ .ok reached := by
  intro h
  obtain ⟨htext, hwalk⟩ := find_eq_ok_iff.1 h
  rcases hlong with hlong | hlong
  · exact absurd htext (Nat.not_le.2 hlong)
  · obtain ⟨walk, hstep, -⟩ := bind_eq_ok_iff.1 hwalk
    rw [show disk.start (pathOf (name :: location)).anchor = [] from rfl,
      step_entry hstands hnames, if_pos hlong] at hstep
    cases hstep

/-- **An entry of a directory that stands is found where its names say**, unless they are too
long. -/
theorem find_entry {reached : Location} (hstands : disk.Stands location)
    (hnames : ∀ n ∈ name :: location, Path.IsName n) :
    disk.find (pathOf (name :: location)) false = .ok reached ↔
      ¬ TooLong (name :: location) ∧ reached = name :: location := by
  by_cases hlong : TooLong (name :: location)
  · simp [hlong, find_of_tooLong hstands hnames hlong]
  · obtain ⟨htext, hshort⟩ := not_or.1 hlong
    have hstep : disk.step false [] (pathOf (name :: location)).names =
        .ok (.arrived (name :: location)) := by
      rw [step_entry hstands hnames, if_neg hshort]
      split <;> rfl
    rw [find, if_neg htext, show disk.start (pathOf (name :: location)).anchor = [] from rfl,
      walk, hstep]
    simp [hlong, bind, Except.bind, pure, Except.pure, eq_comm]

/-! ## Making one directory -/

/-- **A directory is made in one that stands** exactly if nothing is there. -/
theorem makeDirectories_entry (hstands : disk.Stands location)
    (hnames : ∀ n ∈ name :: location, Path.IsName n)
    (h : Ends (makeDirectories (pathOf (name :: location))) disk (.ok ()) disk') :
    ¬ TooLong (name :: location) ∧ disk' = if disk.node? (name :: location) = none
      then disk.put (name :: location) .directory else disk := by
  obtain ⟨hnul, reached, hreached, -⟩ := hasDirectory_makeDirectories (by simp [pathOf]) h
  have hgrows := respects_makeDirectories _ _ _ h
  have hshort : ¬ TooLong (name :: location) := fun hlong =>
    find_of_tooLong (fun place hplace => hgrows.node?_eq (hstands place hplace)) hnames hlong
      hreached
  have hfind := (find_entry hstands hnames).2 ⟨hshort, rfl⟩
  have hback : (name :: location).reverse.reverse = name :: location := List.reverse_reverse _
  rw [makeDirectories, show (pathOf (name :: location)).names.reverse = name :: location from hback,
    makeDirectoriesFrom] at h
  refine ⟨hshort, ?_⟩
  split
  · next hnone =>
      have hmade : Ends (makeDirectory (pathOf (name :: location))) disk (.ok ())
          (disk.put (name :: location) .directory) := by
        refine ends_locate_bind_ok.2 ⟨_, ⟨hnul, hfind⟩, ends_get_bind.2 ?_⟩
        rw [hnone]
        exact ends_modify.2 ⟨rfl, rfl⟩
      exact (h.unique hmade.catch_ok).2
  · next hthere =>
      have hrefused := makeDirectory_of_present hnul hfind hthere
      rcases ends_tryCatch.1 h with ⟨⟨⟩, hfirst, -⟩ | ⟨error, d, hfirst, hrest⟩
      · cases (hfirst.unique hrefused).1
      · obtain ⟨herror, rfl⟩ := hfirst.unique hrefused
        obtain rfl := Except.error.inj herror
        exact (ends_standing.1 hrest).2

/-! ## Removing -/

/-- There is nothing where a path leads, not even a link. -/
def Free (disk : Disk) (path : Path) : Prop :=
  ∃ location, disk.find path false = .ok location ∧ disk.node? location = none

/-- Everything is as before but at one place. -/
structure AllBut (place : Location) (before after : Disk) : Prop where
  here : after.here = before.here
  mounts : after.mounts = before.mounts
  node : ∀ other, other ≠ place → after.node? other = before.node? other

lemma AllBut.refl (place : Location) (disk : Disk) : AllBut place disk disk :=
  ⟨rfl, rfl, fun _ _ => rfl⟩

lemma AllBut.trans {a b c : Disk} (h : AllBut place a b) (h' : AllBut place b c) :
    AllBut place a c :=
  ⟨h'.here.trans h.here, h'.mounts.trans h.mounts,
    fun other hne => (h'.node other hne).trans (h.node other hne)⟩

lemma Refiles.allBut {places : Location → Prop} (h : Refiles places disk disk')
    (hplaces : ∀ other, places other → other = place) : AllBut place disk disk' :=
  ⟨h.here, h.mounts, fun other hne => h.node?_eq fun hplace => hne (hplaces other hplace)⟩

/-- A file that came, went or changed. -/
lemma AllBut.refiles (h : AllBut place disk disk') (hplain : Plain (disk.node? place))
    (hplain' : Plain (disk'.node? place)) : Refiles (· = place) disk disk' := by
  refine ⟨h.here, h.mounts, fun other => ?_⟩
  by_cases heq : other = place
  · subst heq
    exact Or.inr ⟨rfl, hplain, hplain'⟩
  · exact Or.inl (h.node other heq)

/-- Where an entry went, everything else is kept the other way round. -/
lemma AllBut.keeps (h : AllBut place disk disk') (hnone : disk'.node? place = none) :
    Keeps disk' disk := by
  have hsame {other : Location} {node : Node} (hnode : disk'.node? other = some node) :
      disk.node? other = some node := by
    refine (h.node other ?_).symm.trans hnode
    rintro rfl
    simp [hnone] at hnode
  exact ⟨h.here.symm, fun _ => hsame, fun _ _ => hsame⟩

lemma IsTree.drop_allBut (h : disk.IsTree) (hne : place ≠ [])
    (hnode : disk.node? place ≠ some .directory) :
    AllBut place disk (disk.drop place) ∧ (disk.drop place).node? place = none := by
  refine ⟨⟨rfl, rfl, fun other hother => ?_⟩, node?_drop_of_suffix disk hne (List.suffix_refl _)⟩
  by_cases hsuffix : place <:+ other
  · rw [node?_drop_of_suffix disk hne hsuffix, h.node?_below hnode hsuffix hother]
  · exact node?_drop_of_not_suffix disk hsuffix

/-- What removing does, where it does not fail. -/
theorem remove_spec {r : Except Error Unit} (h : Ends (remove path) disk r disk') :
    ((∃ error, disk.located path false = .error error ∧ r = .error error) ∧ disk' = disk) ∨
      ∃ location, disk.find path false = .ok location ∧
        ((r = .error (.system (Cause.isDirectory.about path)) ∧
            disk.node? location = some .directory ∧ disk' = disk) ∨
          (r = .error (.system (Cause.missing.about path)) ∧ disk.node? location = none ∧
            disk' = disk) ∨
          (r = .ok () ∧ disk.node? location ≠ some .directory ∧ location ≠ [] ∧
            disk' = disk.drop location)) := by
  obtain ⟨error, herror, rfl, rfl⟩ | ⟨location, ⟨-, hfind⟩, hrest⟩ := ends_locate_bind.1 h
  · exact Or.inl ⟨⟨error, herror, rfl⟩, rfl⟩
  · refine Or.inr ⟨location, hfind, ?_⟩
    have hdrop := ends_get_bind.1 hrest
    split at hdrop
    · next hdir =>
        obtain ⟨rfl, rfl⟩ := ends_refuse.1 hdrop
        exact Or.inl ⟨rfl, hdir, rfl⟩
    · next node hnode hthere =>
        obtain ⟨rfl, rfl⟩ := ends_modify.1 hdrop
        refine Or.inr (Or.inr ⟨rfl, fun hdir => ?_, ?_, rfl⟩)
        · exact hnode (Option.some.inj (hthere.symm.trans hdir))
        · rintro rfl
          exact hnode (Option.some.inj hthere.symm)
    · next hnone =>
        obtain ⟨rfl, rfl⟩ := ends_refuse.1 hdrop
        exact Or.inr (Or.inl ⟨rfl, hnone, rfl⟩)

/-- **An entry is removed, if it is there,** and nothing else goes with it. -/
theorem removeIfThere_entry {base : Path} (htree : disk.IsTree)
    (hbase : disk.find base true = .ok location)
    (hdir : disk.node? location = some .directory) (hname : Path.IsName name)
    (h : Ends (removeIfThere (base.child name)) disk (.ok ()) disk') :
    disk.find (base.child name) false = .ok (name :: location) ∧
      disk.node? (name :: location) ≠ some .directory ∧
      AllBut (name :: location) disk disk' ∧ disk'.node? (name :: location) = none ∧
      disk'.IsTree := by
  have hchild : disk.find (base.child name) false = _ := find_child hbase hdir hname (by simp)
  have hplace {place : Location} (hfind : disk.find (base.child name) false = .ok place) :
      place = name :: location := eq_of_find_child hbase hdir hname (by simp) hfind
  rcases ends_tryCatch.1 h with ⟨⟨⟩, hremove, -⟩ | ⟨error, d, hremove, hhandled⟩
  · rcases remove_spec hremove with ⟨⟨error, -, herror⟩, -⟩ | ⟨place, hfind, hrest⟩
    · cases herror
    rcases hrest with ⟨herror, -⟩ | ⟨herror, -⟩ | ⟨-, hnode, hne, rfl⟩
    · cases herror
    · cases herror
    · obtain rfl := hplace hfind
      obtain ⟨hallBut, hnone⟩ := htree.drop_allBut hne hnode
      exact ⟨hfind, hnode, hallBut, hnone, htree.drop hne⟩
  · rcases remove_spec hremove with ⟨⟨error', hlocated, herror⟩, rfl⟩ | ⟨place, hfind, hrest⟩
    · obtain rfl := Except.error.inj herror
      -- the entry is in a directory, so nothing but its length can be in the way
      obtain ⟨-, rfl⟩ | ⟨-, cause, hcause, rfl⟩ := located_eq_error.1 hlocated
      · cases (ends_throw.1 hhandled).1
      · rw [hchild] at hcause
        split at hcause
        · obtain rfl := Except.error.inj hcause
          cases (ends_throw.1 hhandled).1
        · cases hcause
    rcases hrest with ⟨herror, -⟩ | ⟨herror, hnone, rfl⟩ | ⟨herror, -⟩
    · obtain rfl := Except.error.inj herror
      cases (ends_throw.1 hhandled).1
    · obtain rfl := Except.error.inj herror
      obtain ⟨-, rfl⟩ := ends_pure.1 hhandled
      obtain rfl := hplace hfind
      exact ⟨hfind, by simp [hnone], AllBut.refl _ _, hnone, htree⟩
    · cases herror

/-- **An entry stays** if its path is too long or a directory is there, and for no other reason. -/
theorem removeIfThere_entry_error {base : Path} {error : Error}
    (hbase : disk.find base true = .ok location)
    (hdir : disk.node? location = some .directory) (hname : Path.IsName name)
    (hnul : hasNul (base.child name) = false)
    (h : Ends (removeIfThere (base.child name)) disk (.error error) disk') :
    (disk.find (base.child name) false = .error .nameTooLong ∧
        error = .system (Cause.nameTooLong.about (base.child name))) ∨
      disk.find (base.child name) false = .ok (name :: location) ∧
        disk.node? (name :: location) = some .directory ∧
        error = .system (Cause.isDirectory.about (base.child name)) := by
  have hchild : disk.find (base.child name) false = _ := find_child hbase hdir hname (by simp)
  rcases ends_tryCatch.1 h with ⟨_, -, hr⟩ | ⟨error', d, hremove, hhandled⟩
  · cases hr
  have hthrown : error' = error := by
    split at hhandled
    · split at hhandled
      · cases (ends_pure.1 hhandled).1
      · exact (Except.error.inj (ends_throw.1 hhandled).1).symm
    · exact (Except.error.inj (ends_throw.1 hhandled).1).symm
  subst hthrown
  rcases remove_spec hremove with ⟨⟨_, hlocated, herror⟩, -⟩ | ⟨place, hfind, hrest⟩
  · obtain rfl := Except.error.inj herror
    obtain ⟨-, cause, hcause, rfl⟩ :=
      (located_eq_error.1 hlocated).resolve_left (by simp [hnul])
    obtain rfl : Cause.nameTooLong = cause := by
      rw [hchild] at hcause
      split at hcause
      · exact Except.error.inj hcause
      · cases hcause
    exact Or.inl ⟨hcause, rfl⟩
  rcases hrest with ⟨herror, hnode, -⟩ | ⟨herror, -, rfl⟩ | ⟨herror, -⟩
  · refine Or.inr ?_
    obtain rfl := eq_of_find_child hbase hdir hname (by simp) hfind
    exact ⟨hfind, hnode, Except.error.inj herror⟩
  · -- an entry that is not there is no failure
    obtain rfl := Except.error.inj herror
    cases (ends_pure.1 hhandled).1
  · cases herror

/-- Nothing is removed where the path is too long. -/
lemma removeIfThere_of_tooLong {path : Path} (hnul : hasNul path = false)
    (hlong : disk.find path false = .error .nameTooLong) :
    Ends (removeIfThere path) disk (.error (.system (Cause.nameTooLong.about path))) disk := by
  have hlocate : Ends (locate path false) disk
      (.error (.system (Cause.nameTooLong.about path))) disk :=
    ends_locate.2 ⟨(located_eq_error.2 (Or.inr ⟨hnul, _, hlong, rfl⟩)).symm, rfl⟩
  exact Ends.catch_error hlocate.bind_error (ends_throw.2 ⟨rfl, rfl⟩)

end WasmCoverage.Disk
