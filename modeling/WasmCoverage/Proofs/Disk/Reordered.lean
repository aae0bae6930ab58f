import Mathlib.Data.List.Lex
import Mathlib.Data.String.Basic
import WasmCoverage.Discovery
import WasmCoverage.Proofs.Disk.Contents
import WasmCoverage.Proofs.Paired

/-!
# Listing orders

A directory lists its entries in the order of the table of its disk.  Two disks with the same
entries in different orders (`Reordered`) are the same to every operation that looks at one entry
at a time, and what an operation changes it changes on both.

An operation that lists a directory sorts what it finds.  Paths from the root that are at the same
place in the order are equal, so a sorted list of them does not depend on the order in which they
were found (`sort_eq_of_perm`).
-/

namespace WasmCoverage

/-! ## Sorted paths -/

namespace Path

lemma before_iff {a b : Path} : a.before b = true ↔ a.sortKey ≤ b.sortKey := by
  simp [before]

/-- Paths from the root are told apart by the order. -/
lemma eq_of_sortKey {a b : Path} (ha : a.isAbsolute = true) (hb : b.isAbsolute = true)
    (h : a.sortKey = b.sortKey) : a = b := by
  obtain ⟨anchor, names⟩ := a
  obtain ⟨anchor', names'⟩ := b
  cases anchor <;> cases anchor' <;> simp_all [sortKey, isAbsolute, Anchor.text]

/-- What is sorted is in order. -/
lemma pairwise_sort (paths : List Path) :
    (sort paths).Pairwise fun a b => a.before b = true := by
  refine List.pairwise_mergeSort (fun a b c => ?_) (fun a b => ?_) _
  · simpa [before] using le_trans
  · simpa [before] using le_total _ _

/-- **The order in which paths from the root are found does not matter** once they are sorted. -/
theorem sort_eq_of_perm {paths others : List Path} (h : paths.Perm others)
    (habsolute : ∀ path ∈ paths, path.isAbsolute = true) : sort paths = sort others := by
  refine List.Perm.eq_of_pairwise (fun a b ha hb hab hba => ?_) (pairwise_sort paths)
    (pairwise_sort others)
    ((List.mergeSort_perm _ _).trans (h.trans (List.mergeSort_perm _ _).symm))
  have ha := habsolute a (List.mem_mergeSort.1 ha)
  have hb := habsolute b (h.symm.subset (List.mem_mergeSort.1 hb))
  exact eq_of_sortKey ha hb (le_antisymm (before_iff.1 hab) (before_iff.1 hba))

end Path

namespace Disk

open WasmCoverage.Text

/-! ## Disks with the same entries -/

/-- The same entries, each there once, perhaps in another order. -/
structure Reordered (disk other : Disk) : Prop where
  here : other.here = disk.here
  mounts : other.mounts = disk.mounts
  entries : other.entries.Perm disk.entries
  distinct : disk.Distinct

variable {disk other : Disk} {path : Path} {location : Location}

namespace Reordered

lemma distinct' (h : Reordered disk other) : other.Distinct := by
  have hperm : (Table.keys other.entries).Perm (Table.keys disk.entries) := by
    rw [Table.keys_eq_map, Table.keys_eq_map]
    exact h.entries.map _
  exact hperm.nodup_iff.2 h.distinct

lemma symm (h : Reordered disk other) : Reordered other disk :=
  ⟨h.here.symm, h.mounts.symm, h.entries.symm, h.distinct'⟩

/-- Disks with the same node everywhere have the same entries. -/
lemma of_get? (hhere : other.here = disk.here) (hmounts : other.mounts = disk.mounts)
    (h : disk.Distinct) (h' : other.Distinct)
    (hget : ∀ location, Table.get? location other.entries = Table.get? location disk.entries) :
    Reordered disk other := by
  have hnodup {disk : Disk} (h : disk.Distinct) : disk.entries.Nodup :=
    List.Nodup.of_map Prod.fst (Table.keys_eq_map disk.entries ▸ h)
  refine ⟨hhere, hmounts, (List.perm_ext_iff_of_nodup (hnodup h') (hnodup h)).2 ?_, h⟩
  · rintro ⟨location, node⟩
    rw [← Table.get?_eq_some_iff h', hget, Table.get?_eq_some_iff h]

lemma get?_eq (h : Reordered disk other) (location : Location) :
    Table.get? location other.entries = Table.get? location disk.entries := by
  refine Option.ext fun node => ?_
  rw [Table.get?_eq_some_iff h.distinct', Table.get?_eq_some_iff h.distinct]
  exact h.entries.mem_iff

/-- **The same is at every location.** -/
theorem node?_eq (h : Reordered disk other) (location : Location) :
    other.node? location = disk.node? location := by
  rw [node?, node?, h.get?_eq]

lemma put (h : Reordered disk other) (location : Location) (node : Node) :
    Reordered (disk.put location node) (other.put location node) := by
  refine of_get? h.here h.mounts (h.distinct.put _ _) (h.distinct'.put _ _) fun place => ?_
  by_cases hplace : place = location
  · rw [hplace, Disk.put, Disk.put, Table.get?_insert_self, Table.get?_insert_self]
  · rw [Disk.put, Disk.put, Table.get?_insert_of_ne _ _ hplace, Table.get?_insert_of_ne _ _ hplace,
      h.get?_eq]

lemma drop (h : Reordered disk other) (location : Location) :
    Reordered (disk.drop location) (other.drop location) :=
  ⟨h.here, h.mounts, h.entries.filter _, Table.nodup_keys_filter h.distinct _⟩

/-! ## Walking -/

lemma step_eq (h : Reordered disk other) (follow : Bool) : ∀ (names : List String)
    (location : Location), other.step follow location names = disk.step follow location names
  | [], _ => rfl
  | name :: rest, location => by
      simp only [step, h.node?_eq, h.step_eq follow rest]

lemma walk_eq (h : Reordered disk other) (follow : Bool) : ∀ (spare : Nat) (location : Location)
    (names : List String), other.walk follow spare location names =
      disk.walk follow spare location names
  | 0, _, _ => rfl
  | spare + 1, location, names => by
      simp only [walk, h.step_eq, h.walk_eq follow spare]

lemma start_eq (h : Reordered disk other) (anchor : Anchor) :
    other.start anchor = disk.start anchor := by
  cases anchor <;> simp [start, h.here]

/-- **A path leads to the same place.** -/
theorem find_eq (h : Reordered disk other) (path : Path) (follow : Bool) :
    other.find path follow = disk.find path follow := by
  rw [find, find, h.start_eq, h.walk_eq]

lemma look_eq (h : Reordered disk other) (path : Path) (follow : Bool) :
    other.look path follow = disk.look path follow := by
  simp only [look, h.find_eq, h.node?_eq]

lemma linkCount_eq (h : Reordered disk other) : other.linkCount = disk.linkCount :=
  h.entries.countP_eq _

lemma behindLinks_of_eq_some (h : Reordered disk other) {spare : Nat} {location : Location}
    {names : List String} {reached : Location}
    (hbehind : disk.behindLinks spare location names = some reached) :
    other.behindLinks spare location names = some reached := by
  fun_induction disk.behindLinks spare location names generalizing reached with
  | case1 => rwa [behindLinks]
  | case2 spare location rest ih =>
      unfold behindLinks
      rw [if_pos rfl]
      exact ih hbehind
  | case3 => cases hbehind
  | case4 location name rest hup target spare hlink first ihTarget =>
      rename_i ihRest
      obtain ⟨inner, hinner, hrest⟩ := Option.bind_eq_some_iff.1 hbehind
      unfold behindLinks
      simp only [hup, if_false, h.node?_eq, hlink]
      exact Option.bind_eq_some_iff.2 ⟨inner, ihTarget hinner, ihRest inner hrest⟩
  | case5 location name rest hup spare hspent hlink ih =>
      unfold behindLinks
      simp only [hup, if_false, h.node?_eq]
      exact ih hbehind

/-- **It is the same place behind all links.** -/
theorem behindLinks_eq (h : Reordered disk other) (spare : Nat) (location : Location)
    (names : List String) :
    other.behindLinks spare location names = disk.behindLinks spare location names :=
  Option.ext fun _ => ⟨h.symm.behindLinks_of_eq_some, h.behindLinks_of_eq_some⟩

lemma children_perm (h : Reordered disk other) (directory : Location) :
    (other.children directory).Perm (disk.children directory) :=
  h.entries.filterMap _

/-- **The same directories are held.** -/
theorem held_iff (h : Reordered disk other) (directory : Location) :
    other.Held directory ↔ disk.Held directory :=
  held_congr h.distinct h.distinct' h.mounts fun place _ => h.node?_eq place

lemma stuck (h : Reordered disk other) (hstuck : disk.Stuck path location) :
    other.Stuck path location :=
  ⟨⟨hstuck.leads.1, (h.find_eq path false).trans hstuck.leads.2⟩,
    (h.node?_eq location).trans hstuck.stands, (h.held_iff location).2 hstuck.held⟩

lemma directoriesFrom_perm (h : Reordered disk other) (root : Location) :
    (other.directoriesFrom root).Perm (disk.directoriesFrom root) :=
  (h.entries.filterMap _).cons root

end Reordered

/-! ## Operations -/

lemma conceals_locate (follow : Bool) : Conceals Reordered (locate path follow) := by
  intro disk other h r disk' hend
  obtain ⟨rfl, rfl⟩ := ends_locate.1 hend
  exact ⟨other, ends_locate.2 ⟨by rw [located, located, h.find_eq], rfl⟩, h⟩

lemma conceals_leadsTo (kind : Node → Bool) : Conceals Reordered (leadsTo kind path) := by
  intro disk other h
  unfold leadsTo
  split
  · exact .pure _ h
  · refine .get_bind ?_
    rw [h.look_eq]
    split
    · exact .pure _ h
    · exact .throw _ h
    · exact .pure _ h

lemma conceals_makeDirectory : Conceals Reordered (makeDirectory path) := by
  refine (conceals_locate false).bind fun location disk other h => .get_bind ?_
  rw [h.node?_eq]
  split
  · exact .throw _ h
  · exact .modify (h.put location .directory)

lemma conceals_makeDirectoriesFrom (anchor : Anchor) : ∀ names : List String,
    Conceals Reordered (makeDirectoriesFrom anchor names)
  | [] => .pure _
  | name :: outer => by
      have hstanding (error : Error) : Conceals Reordered (do
          unless ← isDirectory ⟨anchor, (name :: outer).reverse⟩ do throw error) :=
        (conceals_leadsTo _).bind fun there => by
          cases there
          · exact .throw _
          · exact .pure _
      refine conceals_makeDirectory.tryCatch fun error => ?_
      split
      · split
        · refine (conceals_makeDirectoriesFrom anchor outer).bind fun _ =>
            conceals_makeDirectory.tryCatch fun again => ?_
          split
          · split
            · exact .throw _
            · exact hstanding _
          · exact .throw _
        · exact hstanding _
      · exact .throw _

lemma conceals_makeDirectories : Conceals Reordered (makeDirectories path) :=
  conceals_makeDirectoriesFrom _ _

lemma conceals_read : Conceals Reordered (read path) := by
  intro disk other h
  refine .get_bind ((conceals_locate true disk other h).bind fun location disk' other' h' => ?_)
  rw [h.node?_eq]
  split
  · exact .pure _ h'
  · exact .throw _ h'
  · exact .throw _ h'

lemma conceals_write (data : Octets) : Conceals Reordered (write path data) := by
  refine (conceals_locate true).bind fun location disk other h => .get_bind ?_
  rw [h.node?_eq]
  split
  · exact .modify (h.put _ _)
  · exact .throw _ h
  · exact .modify (h.put _ _)

lemma conceals_copyFile {source target : Path} : Conceals Reordered (copyFile source target) := by
  intro disk other h
  have hcopy : Conceals Reordered (do write target (← read source)) :=
    conceals_read.bind fun data => conceals_write data
  refine .get_bind ?_
  simp only [h.find_eq, h.node?_eq]
  by_cases hnul : (hasNul source || hasNul target) = true
  · simp only [hnul, if_true]
    exact .throw_bind _ h
  · simp only [hnul, Bool.false_eq_true, if_false]
    split
    · split
      · exact .throw_bind _ h
      · exact hcopy _ _ h
    · exact hcopy _ _ h

lemma conceals_remove : Conceals Reordered (remove path) := by
  refine (conceals_locate false).bind fun location disk other h => .get_bind ?_
  rw [h.node?_eq]
  split
  · exact .throw _ h
  · exact .modify (h.drop _)
  · exact .throw _ h

lemma conceals_removeIfThere : Conceals Reordered (removeIfThere path) := by
  refine conceals_remove.tryCatch fun error => ?_
  split
  · split
    · exact .pure _
    · exact .throw _
  · exact .throw _

/-- **A directory that is not stuck is removed alike.** -/
theorem paired_removeTree (h : Reordered disk other)
    (hfree : ∀ directory, ¬ disk.Stuck path directory) :
    Paired Reordered (removeTree path) (removeTree path) disk other := by
  refine (conceals_locate false _ _ h).bind_of_ends fun directory disk' other' hfound h' => ?_
  obtain ⟨hleads, rfl⟩ := ends_locate_ok.1 hfound
  refine .get_bind ?_
  rw [h'.node?_eq]
  split
  · next hdir =>
    have hgo {disk : Disk} (hheld : ¬ disk.Held directory) : Ends
        ((disk.sweep directory).forM fun place => release (shownIn path directory place) place)
        disk (.ok ()) (disk.drop directory) :=
      ends_releaseSweep.2 (Or.inl ⟨rfl, hheld, rfl⟩)
    have hheld : ¬ disk'.Held directory := fun hheld => hfree directory ⟨hleads, hdir, hheld⟩
    intro r disk'' hend
    obtain ⟨rfl, rfl⟩ := hend.unique (hgo hheld)
    exact ⟨_, hgo (mt (h'.held_iff directory).1 hheld), h'.drop directory⟩
  · exact .throw _ h'
  · exact .throw _ h'
  · exact .throw _ h'

/-- The disks have the same but for what is below a directory. -/
structure SameOutside (directory : Location) (disk other : Disk) : Prop where
  here : other.here = disk.here
  mounts : other.mounts = disk.mounts
  node : ∀ place, (directory <:+ place → place = directory) →
    other.node? place = disk.node? place

/-- **Where the removal of a directory is stopped**, different parts of it may be left. -/
theorem Reordered.sameOutside {directory : Location} {r r' : Except Error Unit}
    {disk' other' : Disk} (h : Reordered disk other)
    (hstopped : Interrupted path directory disk r disk')
    (hstopped' : Interrupted path directory other r' other') :
    SameOutside directory disk' other' where
  here := by rw [hstopped.here, hstopped'.here, h.here]
  mounts := by rw [hstopped.mounts, hstopped'.mounts, h.mounts]
  node place hplace := by
    rw [(hstopped.node? place).resolve_right fun hgone => hgone.2.1 (hplace hgone.1),
      (hstopped'.node? place).resolve_right fun hgone => hgone.2.1 (hplace hgone.1), h.node?_eq]

lemma conceals_resolve : Conceals Reordered (resolve path) := by
  intro disk other h
  unfold resolve
  split
  · exact .throw_bind _ h
  · refine .get_bind ?_
    rw [h.linkCount_eq, h.start_eq, h.behindLinks_eq]
    split
    · exact .pure _ h
    · exact .throw _ h

/-! ## Listings -/

/-- **A directory under a path from the root is listed alike.** -/
theorem conceals_entriesOf (habsolute : path.isAbsolute = true) :
    Conceals Reordered (entriesOf path) := by
  intro disk other h
  have hsort (location : Location) :
      Path.sort ((other.children location).map fun entry => path.child entry.1) =
        Path.sort ((disk.children location).map fun entry => path.child entry.1) := by
    refine Path.sort_eq_of_perm ((h.children_perm location).map _) fun child hchild => ?_
    obtain ⟨entry, -, rfl⟩ := List.mem_map.1 hchild
    exact Path.isAbsolute_child habsolute entry.1
  intro r disk' hend
  rw [ends_entriesOf] at hend
  obtain ⟨rfl, rfl⟩ := hend
  refine ⟨other, ends_entriesOf.2 ⟨?_, rfl⟩, h⟩
  unfold listed
  rw [located, located, h.find_eq]
  split
  · rfl
  · rw [h.node?_eq]
    split
    · exact congrArg Except.ok (hsort _).symm
    · rfl
    · rfl

lemma conceals_firstFile (accepted : Path → Bool) : ∀ paths : List Path,
    Conceals Reordered (firstFile accepted paths)
  | [] => .pure _
  | _ :: rest => by
      refine (conceals_leadsTo _).bind fun _ => ?_
      split
      · split
        · exact .pure _
        · exact conceals_firstFile accepted rest
      · exact conceals_firstFile accepted rest

/-- **The files of a directory are listed alike**, if they are. -/
theorem answersAlike_filesWithSuffix (habsolute : path.isAbsolute = true) (suffix : String)
    (h : Reordered disk other) : AnswersAlike Reordered (filesWithSuffix path suffix)
      (filesWithSuffix path suffix) disk other := by
  intro files disk' hend
  obtain ⟨location, hfind, hdir, hasked, rfl, rfl⟩ := ends_filesWithSuffix_ok.1 hend
  have hlisted : (other.listedWith path suffix location).Perm
      (disk'.listedWith path suffix location) :=
    ((h.children_perm location).map _).filter _
  have hfile (child : Path) : other.isFileAt child = disk'.isFileAt child := by
    rw [isFileAt, isFileAt, content?, content?, h.look_eq]
  refine ⟨other, ends_filesWithSuffix_ok.2 ⟨location,
    ⟨hfind.1, (h.find_eq path true).trans hfind.2⟩, (h.node?_eq location).trans hdir,
    fun child hchild => ?_, ?_, rfl⟩, h⟩
  · obtain ⟨other', hend', -⟩ :=
      conceals_leadsTo _ _ _ h _ _ (hasked child (hlisted.subset hchild))
    obtain rfl := respects_leadsTo _ _ _ _ hend'
    rwa [hfile]
  · rw [List.filter_congr fun child _ => (hfile child).symm]
    refine Path.sort_eq_of_perm (hlisted.symm.filter _) fun child hchild => ?_
    obtain ⟨entry, -, rfl⟩ :=
      List.mem_map.1 (List.mem_of_mem_filter (List.mem_of_mem_filter hchild))
    exact Path.isAbsolute_child habsolute entry.1

end Disk

/-! ## Worlds -/

/-- The worlds differ in the order of the entries of their disks only. -/
structure World.Reordered (w v : World) : Prop where
  disk : Disk.Reordered w.disk v.disk
  rest : v = { w with disk := v.disk }

section World

variable {α : Type} {action : Disk.Action α}

/-- What is paired on the disks is paired in the worlds. -/
lemma Paired.onDiskOr {reword : Disk.Error → Fault} {w v : World}
    (h : Paired Disk.Reordered action action w.disk v.disk) (hwv : w.Reordered v) :
    Paired World.Reordered (onDiskOr reword action) (onDiskOr reword action) w v := by
  intro r w' hend
  obtain ⟨result, disk, haction, rfl, rfl⟩ := ends_onDiskOr.1 hend
  obtain ⟨other, haction', hdisk⟩ := h _ _ haction
  exact ⟨{ v with disk := other }, ends_onDiskOr.2 ⟨result, other, haction', rfl, rfl⟩, hdisk,
    by rw [hwv.rest]⟩

/-- A run on the disk conceals what the action conceals. -/
lemma Conceals.onDiskOr {reword : Disk.Error → Fault} (h : Conceals Disk.Reordered action) :
    Conceals World.Reordered (onDiskOr reword action) :=
  fun _ _ hwv => (h _ _ hwv.disk).onDiskOr hwv

lemma Conceals.onDisk (h : Conceals Disk.Reordered action) :
    Conceals World.Reordered (onDisk action) := by
  rw [onDisk_eq]
  exact h.onDiskOr

lemma Alike.onDiskOr {reword : Disk.Error → Fault} {E : Disk.Error → Disk.Error → Prop}
    {F : Fault → Fault → Prop} {w v : World}
    (h : Alike E Disk.Reordered action action w.disk v.disk) (hwv : w.Reordered v)
    (hE : ∀ e e', E e e' → F (passedOn reword e) (passedOn reword e')) :
    Alike F World.Reordered (onDiskOr reword action) (onDiskOr reword action) w v := by
  intro r w' hend
  obtain ⟨result, disk, haction, rfl, rfl⟩ := ends_onDiskOr.1 hend
  obtain ⟨result', other, haction', hsame, hdisk⟩ := h _ _ haction
  refine ⟨_, { v with disk := other }, ends_onDiskOr.2 ⟨result', other, haction', rfl, rfl⟩, ?_,
    hdisk, by rw [hwv.rest]⟩
  rcases hsame with rfl | ⟨e, e', rfl, rfl, hkindred⟩
  · exact Or.inl rfl
  · exact Or.inr ⟨_, _, rfl, rfl, hE e e' hkindred⟩

lemma conceals_journal (author : Author) (level : LogLevel) (message : String) :
    Conceals World.Reordered (journal author level message) := by
  intro w v hwv
  refine .modify ⟨hwv.disk, ?_⟩
  rw [hwv.rest]

end World

end WasmCoverage
