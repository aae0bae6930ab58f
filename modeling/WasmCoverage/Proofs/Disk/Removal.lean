import WasmCoverage.Proofs.Disk.Tree

/-!
# Removing a directory entry by entry

A directory is removed from the inside out, in the order of its `sweep`.  If the system lets go of
everything, nothing is left of it.  Otherwise something in it is `Held`: the removal ends there, and
what came before it in the sweep is gone (`Interrupted`).  Either way nothing else changes
(`removeTree_spec`).
-/

namespace WasmCoverage.Disk

variable {disk disk' : Disk} {directory location place : Location} {path : Path}
  {r : Except Error Unit}

/-! ## Sweeps -/

/-- What is swept with a directory: what is swept with its entries, and the directory itself. -/
theorem mem_sweep : place ∈ disk.sweep directory ↔
    (∃ child ∈ disk.children directory, if child.2 = .directory
      then place ∈ disk.sweep (child.1 :: directory) else place = child.1 :: directory) ∨
      place = directory := by
  rw [sweep, List.mem_append, List.mem_flatMap, List.mem_singleton]
  refine or_congr_left ⟨?_, ?_⟩
  · rintro ⟨⟨⟨name, node⟩, hchild⟩, -, hplace⟩
    refine ⟨(name, node), hchild, ?_⟩
    dsimp only at hplace ⊢
    split at hplace
    · next hdir => rwa [if_pos hdir]
    · next hdir => rwa [if_neg hdir, ← List.mem_singleton]
  · rintro ⟨⟨name, node⟩, hchild, hplace⟩
    refine ⟨⟨(name, node), hchild⟩, List.mem_attach _ _, ?_⟩
    dsimp only at hplace ⊢
    split at hplace
    · next hdir => rwa [if_pos hdir]
    · next hdir => rwa [if_neg hdir, List.mem_singleton]

/-- **Everything that is swept is in the directory.** -/
theorem suffix_of_mem_sweep (h : place ∈ disk.sweep directory) : directory <:+ place := by
  induction directory using sweep.induct disk with
  | case1 directory ih =>
    rcases mem_sweep.1 h with ⟨child, hchild, hplace⟩ | rfl
    · split at hplace
      · exact (List.suffix_cons _ _).trans (ih child.1 child.2 hchild hplace)
      · rw [hplace]
        exact List.suffix_cons _ _
    · exact List.suffix_rfl

/-- The directory is swept last, behind everything below it. -/
lemma exists_sweep_eq (disk : Disk) (directory : Location) : ∃ below,
    disk.sweep directory = below ++ [directory] ∧
      ∀ place ∈ below, directory <:+ place ∧ place ≠ directory := by
  refine ⟨_, sweep.eq_1 disk directory, fun place hplace => ?_⟩
  obtain ⟨⟨⟨name, node⟩, hchild⟩, -, hplace⟩ := List.mem_flatMap.1 hplace
  have hbelow : name :: directory <:+ place := by
    dsimp only at hplace
    split at hplace
    · exact suffix_of_mem_sweep hplace
    · exact (List.mem_singleton.1 hplace) ▸ List.suffix_rfl
  refine ⟨(List.suffix_cons _ _).trans hbelow, ?_⟩
  rintro rfl
  exact absurd hbelow.length_le (by simp)

/-! ## Disks that places were dropped from -/

/-- The disk without what is in some places, dropped one after the other. -/
def without (disk : Disk) (places : List Location) : Disk :=
  places.foldl drop disk

@[simp] lemma without_here (disk : Disk) : ∀ places : List Location,
    (disk.without places).here = disk.here
  | [] => rfl
  | place :: rest => without_here (disk.drop place) rest

@[simp] lemma without_mounts (disk : Disk) : ∀ places : List Location,
    (disk.without places).mounts = disk.mounts
  | [] => rfl
  | place :: rest => without_mounts (disk.drop place) rest

lemma without_append (disk : Disk) (places others : List Location) :
    disk.without (places ++ others) = (disk.without places).without others :=
  List.foldl_append

lemma IsTree.without : ∀ {places : List Location} {disk : Disk}, disk.IsTree → [] ∉ places →
    (disk.without places).IsTree
  | [], _, h, _ => h
  | place :: _, _, h, hplaces => by
      rw [List.mem_cons, not_or] at hplaces
      exact (h.drop (Ne.symm hplaces.1)).without hplaces.2

/-- A place stays as it is, or was dropped with what it is in. -/
lemma node?_without : ∀ {places : List Location} {disk : Disk}, [] ∉ places →
    (disk.without places).node? location = disk.node? location ∨
      (∃ place ∈ places, place <:+ location) ∧ (disk.without places).node? location = none
  | [], _, _ => Or.inl rfl
  | place :: rest, disk, hplaces => by
      rw [List.mem_cons, not_or] at hplaces
      have hcases : ((disk.drop place).without rest).node? location =
          (disk.drop place).node? location ∨ _ := node?_without hplaces.2
      rcases hcases with hrest | ⟨⟨other, hother, hsuffix⟩, hgone⟩
      · by_cases hsuffix : place <:+ location
        · refine Or.inr ⟨⟨place, List.mem_cons_self, hsuffix⟩, hrest.trans ?_⟩
          exact node?_drop_of_suffix disk (Ne.symm hplaces.1) hsuffix
        · exact Or.inl (hrest.trans (node?_drop_of_not_suffix disk hsuffix))
      · exact Or.inr ⟨⟨other, List.mem_cons_of_mem _ hother, hsuffix⟩, hgone⟩

/-- What is dropped anyhow may be dropped before. -/
lemma drop_drop (h : location <:+ place) :
    (disk.drop place).drop location = disk.drop location := by
  have hkept (entry : Location × Node) (hkeep : (!location.isSuffixOf entry.1) = true) :
      (!place.isSuffixOf entry.1) = true := by
    rw [Bool.not_eq_true', ← Bool.not_eq_true, List.isSuffixOf_iff_suffix] at hkeep ⊢
    exact fun hplace => hkeep (h.trans hplace)
  simp only [drop, List.filter_filter, Disk.mk.injEq, and_true]
  refine List.filter_congr fun entry _ => ?_
  cases hkeep : !location.isSuffixOf entry.1 with
  | false => rfl
  | true => rw [hkept entry hkeep, Bool.and_self]

/-- **Once a directory is dropped it does not matter what of it was dropped before.** -/
theorem drop_without : ∀ {places : List Location} {disk : Disk},
    (∀ place ∈ places, location <:+ place) →
    (disk.without places).drop location = disk.drop location
  | [], _, _ => rfl
  | place :: rest, disk, h => by
      rw [List.forall_mem_cons] at h
      exact (drop_without h.2).trans (drop_drop h.1)

/-! ## Removing -/

/-- Something in the directory, or the directory itself, has a file system mounted on it. -/
def Held (disk : Disk) (directory : Location) : Prop :=
  ∃ place ∈ disk.sweep directory, place ∈ disk.mounts

instance (disk : Disk) (directory : Location) : Decidable (disk.Held directory) :=
  inferInstanceAs (Decidable (∃ place ∈ disk.sweep directory, place ∈ disk.mounts))

/-- Nothing is held where nothing is mounted. -/
lemma not_held_of_mounts (h : ∀ place ∈ disk.mounts, ¬ directory <:+ place) :
    ¬ disk.Held directory := by
  rintro ⟨place, hswept, hmounted⟩
  exact h place hmounted (suffix_of_mem_sweep hswept)

lemma ends_release : Ends (release path place) disk r disk' ↔
    if place ∈ disk.mounts then r = .error (.system (Cause.busy.about path)) ∧ disk' = disk
    else r = .ok () ∧ disk' = disk.drop place := by
  rw [release, ends_get_bind]
  split
  · exact ends_refuse
  · exact ends_modify

lemma release_of_free (h : place ∉ disk.mounts) :
    Ends (release path place) disk (.ok ()) (disk.drop place) :=
  ends_release.2 (by rw [if_neg h]; exact ⟨rfl, rfl⟩)

lemma release_of_held (h : place ∈ disk.mounts) :
    Ends (release path place) disk (.error (.system (Cause.busy.about path))) disk :=
  ends_release.2 (by rw [if_pos h]; exact ⟨rfl, rfl⟩)

section ReleaseAll

variable {shown : Location → Path} {places gone behind : List Location}

lemma releaseAll_cons : ((place :: places).forM fun place => release (shown place) place) =
    release (shown place) place >>= fun _ => places.forM fun place => release (shown place) place :=
  rfl

/-- Places that are free are all released. -/
lemma releaseAll_of_free (h : ∀ place ∈ places, place ∉ disk.mounts) :
    Ends (places.forM fun place => release (shown place) place) disk (.ok ())
      (disk.without places) := by
  induction places generalizing disk with
  | nil => exact ends_pure.2 ⟨rfl, rfl⟩
  | cons place rest ih =>
    rw [List.forall_mem_cons] at h
    rw [releaseAll_cons]
    exact (release_of_free h.1).bind (ih h.2)

/-- Behind a place that is held nothing is released. -/
lemma releaseAll_of_held (hgone : ∀ place ∈ gone, place ∉ disk.mounts)
    (hheld : place ∈ disk.mounts) :
    Ends ((gone ++ place :: behind).forM fun place => release (shown place) place) disk
      (.error (.system (Cause.busy.about (shown place)))) (disk.without gone) := by
  induction gone generalizing disk with
  | nil =>
    rw [List.nil_append, releaseAll_cons]
    exact (release_of_held hheld).bind_error
  | cons first gone ih =>
    rw [List.forall_mem_cons] at hgone
    rw [List.cons_append, releaseAll_cons]
    exact (release_of_free hgone.1).bind (ih hgone.2 hheld)

/-- **Places are released one after the other**, up to the first with a file system mounted on
it. -/
theorem ends_releaseAll :
    Ends (places.forM fun place => release (shown place) place) disk r disk' ↔
      (r = .ok () ∧ (∀ place ∈ places, place ∉ disk.mounts) ∧ disk' = disk.without places) ∨
      ∃ gone place behind, places = gone ++ place :: behind ∧
        (∀ p ∈ gone, p ∉ disk.mounts) ∧ place ∈ disk.mounts ∧
        r = .error (.system (Cause.busy.about (shown place))) ∧ disk' = disk.without gone := by
  constructor
  · intro h
    cases hfirst : places.find? fun place => decide (place ∈ disk.mounts) with
    | none =>
      have hfree : ∀ place ∈ places, place ∉ disk.mounts := by
        simpa using List.find?_eq_none.1 hfirst
      obtain ⟨rfl, rfl⟩ := h.unique (releaseAll_of_free hfree)
      exact Or.inl ⟨rfl, hfree, rfl⟩
    | some place =>
      obtain ⟨hheld, gone, behind, rfl, hbefore⟩ := List.find?_eq_some_iff_append.1 hfirst
      have hgone : ∀ p ∈ gone, p ∉ disk.mounts := by simpa using hbefore
      have hplace := of_decide_eq_true hheld
      obtain ⟨rfl, rfl⟩ := h.unique (releaseAll_of_held hgone hplace)
      exact Or.inr ⟨gone, place, behind, rfl, hgone, hplace, rfl, rfl⟩
  · rintro (⟨rfl, hfree, rfl⟩ | ⟨gone, place, behind, rfl, hgone, hheld, rfl, rfl⟩)
    · exact releaseAll_of_free hfree
    · exact releaseAll_of_held hgone hheld

end ReleaseAll

/-- A removal that is stopped: the first place of the sweep that is held is shown, and those before
it are gone. -/
def Interrupted (path : Path) (directory : Location) (before : Disk) (r : Except Error Unit)
    (after : Disk) : Prop :=
  ∃ gone place behind, before.sweep directory = gone ++ place :: behind ∧
    (∀ p ∈ gone, p ∉ before.mounts) ∧ place ∈ before.mounts ∧
    r = .error (.system (Cause.busy.about (shownIn path directory place))) ∧
    after = before.without gone

/-- **Removing what is in a directory** leaves nothing of it, or is stopped. -/
theorem ends_releaseSweep :
    Ends ((disk.sweep directory).forM fun place => release (shownIn path directory place) place)
        disk r disk' ↔
      (r = .ok () ∧ ¬ disk.Held directory ∧ disk' = disk.drop directory) ∨
        (disk.Held directory ∧ Interrupted path directory disk r disk') := by
  have hwithout : disk.without (disk.sweep directory) = disk.drop directory := by
    obtain ⟨below, heq, hbelow⟩ := exists_sweep_eq disk directory
    rw [heq, without_append]
    exact drop_without fun place hplace => (hbelow place hplace).1
  rw [ends_releaseAll, hwithout]
  refine or_congr ?_
    ⟨fun ⟨gone, place, behind, h⟩ => ⟨⟨place, ?_, h.2.2.1⟩, ⟨gone, place, behind, h⟩⟩, And.right⟩
  · simp [Held]
  · rw [h.1]
    simp

/-- The path leads to a directory in which something is held. -/
structure Stuck (disk : Disk) (path : Path) (directory : Location) : Prop where
  leads : hasNul path = false ∧ disk.find path false = .ok directory
  stands : disk.node? directory = some .directory
  held : disk.Held directory

/-- **Removing a tree** fails and changes nothing, or a directory goes with what is below it, or the
removal is stopped in it. -/
theorem removeTree_spec (h : Ends (removeTree path) disk r disk') :
    ((∃ error, r = .error error) ∧ disk' = disk) ∨ ∃ location,
      disk.find path false = .ok location ∧ disk.node? location = some .directory ∧
        ((r = .ok () ∧ disk' = disk.drop location) ∨
          (disk.Stuck path location ∧ Interrupted path location disk r disk')) := by
  obtain ⟨error, -, rfl, rfl⟩ | ⟨location, hfind, hrest⟩ := ends_locate_bind.1 h
  · exact Or.inl ⟨⟨error, rfl⟩, rfl⟩
  · have hdrop := ends_get_bind.1 hrest
    split at hdrop
    · next hdir =>
        refine Or.inr ⟨location, hfind.2, hdir, ?_⟩
        exact (ends_releaseSweep.1 hdrop).imp (fun hgone => ⟨hgone.1, hgone.2.2⟩)
          fun hheld => ⟨⟨hfind, hdir, hheld.1⟩, hheld.2⟩
    · obtain ⟨rfl, rfl⟩ := ends_throw.1 hdrop
      exact Or.inl ⟨⟨_, rfl⟩, rfl⟩
    · obtain ⟨rfl, rfl⟩ := ends_throw.1 hdrop
      exact Or.inl ⟨⟨_, rfl⟩, rfl⟩
    · obtain ⟨rfl, rfl⟩ := ends_refuse.1 hdrop
      exact Or.inl ⟨⟨_, rfl⟩, rfl⟩

/-- There is something. -/
lemma Stuck.ends_pathExists (h : disk.Stuck path directory) :
    Ends (pathExists path) disk (.ok true) disk := by
  have hleads := find_followed h.leads.2 fun target => by simp [h.stands]
  exact ends_leadsTo_true.2
    ⟨⟨h.leads.1, .directory, look_eq_ok.2 ⟨directory, hleads, h.stands⟩, rfl⟩, rfl⟩

/-- **A stuck directory is not removed**: the removal is stopped in it. -/
theorem Stuck.interrupted (h : disk.Stuck path directory)
    (hend : Ends (removeTree path) disk r disk') : Interrupted path directory disk r disk' := by
  obtain ⟨error, hlocated, -⟩ | ⟨location, hfind, hrest⟩ := ends_locate_bind.1 hend
  · cases hlocated.symm.trans (located_eq_ok.2 h.leads)
  · obtain rfl := Except.ok.inj (hfind.2.symm.trans h.leads.2)
    have hsweep := ends_get_bind.1 hrest
    rw [h.stands] at hsweep
    exact ((ends_releaseSweep.1 hsweep).resolve_left fun hgone => hgone.2.1 h.held).2

namespace Interrupted

variable {after : Disk}

lemma nil_not_mem {gone : List Location}
    (hgone : ∀ place ∈ gone, directory <:+ place ∧ place ≠ directory) : [] ∉ gone := fun hnil =>
  (hgone [] hnil).2 (List.suffix_nil.1 (hgone [] hnil).1).symm

/-- What is gone was below the directory. -/
lemma exists_gone (h : Interrupted path directory disk r after) : ∃ gone,
    (∀ place ∈ gone, directory <:+ place ∧ place ≠ directory) ∧ after = disk.without gone := by
  obtain ⟨gone, place, behind, hsplit, -, -, -, rfl⟩ := h
  obtain ⟨below, heq, hbelow⟩ := exists_sweep_eq disk directory
  refine ⟨gone, fun p hp => hbelow p ?_, rfl⟩
  have hgone : gone <+: disk.sweep directory := ⟨_, hsplit.symm⟩
  have hlength : gone.length ≤ below.length := by
    have := congrArg List.length (hsplit.symm.trans heq)
    simp only [List.length_append, List.length_cons, List.length_nil] at this
    omega
  exact (List.prefix_of_prefix_length_le hgone ⟨_, heq.symm⟩ hlength).subset hp

lemma here (h : Interrupted path directory disk r after) : after.here = disk.here := by
  obtain ⟨gone, -, rfl⟩ := h.exists_gone
  exact without_here disk gone

lemma mounts (h : Interrupted path directory disk r after) : after.mounts = disk.mounts := by
  obtain ⟨gone, -, rfl⟩ := h.exists_gone
  exact without_mounts disk gone

/-- **What is not below the directory stays**, and so does the directory; what does not stay is
gone. -/
theorem node? (h : Interrupted path directory disk r after) (place : Location) :
    after.node? place = disk.node? place ∨
      directory <:+ place ∧ place ≠ directory ∧ after.node? place = none := by
  obtain ⟨gone, hgone, rfl⟩ := h.exists_gone
  refine (node?_without (nil_not_mem hgone)).imp_right ?_
  rintro ⟨⟨p, hp, hsuffix⟩, hnone⟩
  obtain ⟨hbelow, hne⟩ := hgone p hp
  refine ⟨hbelow.trans hsuffix, ?_, hnone⟩
  rintro rfl
  exact hne (hsuffix.eq_of_length (Nat.le_antisymm hsuffix.length_le hbelow.length_le))

/-- A tree stays one. -/
lemma isTree (h : Interrupted path directory disk r after) (htree : disk.IsTree) :
    after.IsTree := by
  obtain ⟨gone, hgone, rfl⟩ := h.exists_gone
  exact htree.without (nil_not_mem hgone)

/-- It ends with a refusal. -/
lemma exists_error (h : Interrupted path directory disk r after) : ∃ shown,
    r = .error (.system (Cause.busy.about shown)) := by
  obtain ⟨_, _, _, -, -, -, hr, -⟩ := h
  exact ⟨_, hr⟩

end Interrupted

end WasmCoverage.Disk
