import WasmCoverage.Proofs.Disk.Entries
import WasmCoverage.Proofs.Disk.Listing
import WasmCoverage.Proofs.Disk.RealPath
import WasmCoverage.Proofs.Table

/-!
# The contents of a directory

A disk that lists every place once is known by its nodes: a directory has exactly the entries that
are found in it (`mem_children`).  Their names in order, `namesIn`, are what a listing answers
(`ends_entriesOf_at`), each once and the smaller first (`pairwise_namesIn`), in whatever order the
entries came.
-/

namespace WasmCoverage.Disk

variable {disk disk' : Disk} {name : String} {directory : Location} {node : Node}

/-! ## Disks that list every place once -/

/-- Every place is listed once. -/
def Distinct (disk : Disk) : Prop :=
  (Table.keys disk.entries).Nodup

instance (disk : Disk) : Decidable disk.Distinct :=
  inferInstanceAs (Decidable (List.Nodup _))

lemma Distinct.put (h : disk.Distinct) (location : Location) (node : Node) :
    (disk.put location node).Distinct :=
  Table.nodup_keys_insert h location node

lemma Distinct.drop (h : disk.Distinct) (location : Location) : (disk.drop location).Distinct :=
  Table.nodup_keys_filter h _

lemma Distinct.without : ∀ {places : List Location} {disk : Disk}, disk.Distinct →
    (disk.without places).Distinct
  | [], _, h => h
  | place :: _, _, h => (h.drop place).without

lemma Interrupted.distinct {path : Path} {location : Location} {r : Except Error Unit}
    (h : Interrupted path location disk r disk') (hdistinct : disk.Distinct) : disk'.Distinct := by
  obtain ⟨gone, -, rfl⟩ := h.exists_gone
  exact hdistinct.without

/-- **What is listed in a place is what is found there.** -/
theorem mem_entries {location : Location} (h : disk.Distinct) (hne : location ≠ []) :
    (location, node) ∈ disk.entries ↔ disk.node? location = some node := by
  rw [node?, if_neg hne, Table.get?_eq_some_iff h]

/-- **A directory has the entries that are found in it.** -/
theorem mem_children (h : disk.Distinct) :
    (name, node) ∈ disk.children directory ↔ disk.node? (name :: directory) = some node := by
  rw [← mem_entries h (by simp), children, List.mem_filterMap]
  constructor
  · rintro ⟨⟨location, other⟩, hmem, hentry⟩
    cases location with
    | nil => cases hentry
    | cons n parent =>
      simp only [Option.ite_none_right_eq_some, Option.some.injEq, Prod.mk.injEq] at hentry
      obtain ⟨rfl, rfl, rfl⟩ := hentry
      exact hmem
  · exact fun hmem => ⟨_, hmem, by simp⟩

/-- **The same is swept** where the same is in a directory. -/
theorem mem_sweep_congr (h : disk.Distinct) (h' : disk'.Distinct) {place : Location}
    (hnode : ∀ place, directory <:+ place → disk'.node? place = disk.node? place) :
    place ∈ disk'.sweep directory ↔ place ∈ disk.sweep directory := by
  induction directory using sweep.induct disk with
  | case1 directory ih =>
    rw [mem_sweep, mem_sweep]
    refine or_congr_left (exists_congr fun child => ?_)
    obtain ⟨name, node⟩ := child
    rw [mem_children h', mem_children h, hnode _ (List.suffix_cons _ _)]
    refine and_congr_right fun hchild => ?_
    split
    · exact ih name node ((mem_children h).2 hchild) fun place hplace =>
        hnode place ((List.suffix_cons _ _).trans hplace)
    · exact Iff.rfl

lemma held_congr (h : disk.Distinct) (h' : disk'.Distinct) (hmounts : disk'.mounts = disk.mounts)
    (hnode : ∀ place, directory <:+ place → disk'.node? place = disk.node? place) :
    disk'.Held directory ↔ disk.Held directory := by
  unfold Held
  rw [hmounts]
  exact exists_congr fun place => and_congr_left fun _ => mem_sweep_congr h h' hnode

lemma nodup_children (h : disk.Distinct) (directory : Location) :
    ((disk.children directory).map Prod.fst).Nodup := by
  have hkeys : (((disk.children directory).map Prod.fst).map (· :: directory)).Sublist
      (Table.keys disk.entries) := by
    rw [Table.keys_eq_map, children, List.map_map]
    generalize disk.entries = entries
    induction entries with
    | nil => exact List.Sublist.refl _
    | cons entry rest ih =>
      obtain ⟨location, node⟩ := entry
      cases location with
      | nil => exact ih.cons _
      | cons name parent =>
        by_cases hparent : parent = directory
        · subst hparent
          simpa [List.filterMap_cons] using ih
        · simpa [List.filterMap_cons, hparent] using ih.cons _
  exact (hkeys.nodup h).of_map _

/-! ## Names in order -/

/-- The names of the entries of a directory, in order. -/
def namesIn (disk : Disk) (directory : Location) : List String :=
  ((disk.children directory).map Prod.fst).mergeSort fun a b => !decide (b < a)

lemma mem_namesIn (h : disk.Distinct) :
    name ∈ disk.namesIn directory ↔ disk.node? (name :: directory) ≠ none := by
  rw [namesIn, List.mem_mergeSort, List.mem_map, Option.ne_none_iff_exists']
  constructor
  · rintro ⟨⟨n, node⟩, hmem, rfl⟩
    exact ⟨node, (mem_children h).1 hmem⟩
  · rintro ⟨node, hnode⟩
    exact ⟨(name, node), (mem_children h).2 hnode, rfl⟩

/-- A name is listed only where something is. -/
lemma node?_of_mem_namesIn (h : name ∈ disk.namesIn directory) :
    disk.node? (name :: directory) ≠ none := by
  rw [namesIn, List.mem_mergeSort, List.mem_map] at h
  obtain ⟨⟨n, node⟩, hmem, rfl⟩ := h
  obtain ⟨⟨location, other⟩, hentry, hsome⟩ := List.mem_filterMap.1 hmem
  cases location with
  | nil => cases hsome
  | cons n' parent =>
    simp only [Option.ite_none_right_eq_some, Option.some.injEq, Prod.mk.injEq] at hsome
    obtain ⟨rfl, rfl, rfl⟩ := hsome
    rw [node?, if_neg (by simp)]
    exact fun hnone => Table.get?_eq_none_iff.1 hnone (Table.mem_keys_of_mem hentry)

lemma nodup_namesIn (h : disk.Distinct) (directory : Location) :
    (disk.namesIn directory).Nodup :=
  (List.mergeSort_perm _ _).nodup_iff.2 (nodup_children h directory)

lemma pairwise_mergeSort (names : List String) :
    (names.mergeSort fun a b => !decide (b < a)).Pairwise fun a b => ¬ b < a := by
  have hsorted : (names.mergeSort fun a b => !decide (b < a)).Pairwise
      fun a b => (!decide (b < a)) = true := by
    refine List.pairwise_mergeSort (fun a b c hab hbc => ?_) (fun a b => ?_) _
    · simp only [Bool.not_eq_true', decide_eq_false_iff_not, String.not_lt] at hab hbc ⊢
      exact String.le_trans hab hbc
    · simp only [Bool.or_eq_true, Bool.not_eq_true', decide_eq_false_iff_not, String.not_lt]
      exact String.le_total a b
  exact hsorted.imp fun h => by simpa using h

/-- Names may be sorted out before they are sorted. -/
lemma filter_mergeSort (names : List String) (p : String → Bool) :
    (names.mergeSort fun a b => !decide (b < a)).filter p =
      (names.filter p).mergeSort fun a b => !decide (b < a) := by
  refine List.Perm.eq_of_pairwise (fun a b _ _ hab hba => ?_)
    ((pairwise_mergeSort names).filter p) (pairwise_mergeSort _)
    (((List.mergeSort_perm _ _).filter p).trans (List.mergeSort_perm _ _).symm)
  exact String.le_antisymm (String.not_lt.1 hab) (String.not_lt.1 hba)

/-- **The names are in order, and each is there once.** -/
theorem pairwise_namesIn (h : disk.Distinct) (directory : Location) :
    (disk.namesIn directory).Pairwise (· < ·) := by
  refine ((pairwise_mergeSort _).and (nodup_namesIn h directory)).imp ?_
  rintro a b ⟨hle, hne⟩
  exact String.not_le.1 fun hba => hne (String.le_antisymm (String.not_lt.1 hle) hba)

/-! ## Listings -/

/-- Lists that differ in their last names are in the order of those. -/
lemma append_lt_append_iff (names : List String) (a b : String) :
    names ++ [a] < names ++ [b] ↔ a < b := by
  induction names with
  | nil => simp [List.cons_lt_cons_iff]
  | cons name names ih =>
    rw [List.cons_append, List.cons_append, List.cons_lt_cons_iff, ih]
    simp

/-- Entries of one directory are in the order of their names. -/
lemma sortKey_lt_iff (directory : Location) (a b : String) :
    (pathOf (a :: directory)).sortKey < (pathOf (b :: directory)).sortKey ↔ a < b := by
  have hkey (c : String) :
      (pathOf (c :: directory)).sortKey = ("/" :: directory.reverse) ++ [c] := by
    simp [Path.sortKey, pathOf, Anchor.text]
  rw [hkey, hkey, append_lt_append_iff]

lemma before_pathOf (directory : Location) (a b : String) :
    (pathOf (a :: directory)).before (pathOf (b :: directory)) = !decide (b < a) := by
  rw [Path.before, decide_eq_decide.2 (sortKey_lt_iff directory b a)]

/-- Paths of entries are sorted by their names. -/
lemma sort_map_pathOf (names : List String) :
    Path.sort (names.map fun name => pathOf (name :: directory)) =
      (names.mergeSort fun a b => !decide (b < a)).map fun name => pathOf (name :: directory) :=
  (List.map_mergeSort fun a _ b _ => (before_pathOf directory a b).symm).symm

/-- The entries of a directory with proper names have the paths of their places. -/
lemma map_child_eq (hnames : ∀ name ∈ disk.namesIn directory, Path.IsName name) :
    (disk.children directory).map (fun entry => (pathOf directory).child entry.1) =
      ((disk.children directory).map Prod.fst).map fun name => pathOf (name :: directory) := by
  rw [List.map_map]
  refine List.map_congr_left fun entry hentry => child_pathOf directory (hnames _ ?_)
  rw [namesIn, List.mem_mergeSort]
  exact List.mem_map_of_mem hentry

/-- **A directory that is reached is listed in the order of its names.** -/
theorem ends_entriesOf_at (hclean : hasNul (pathOf directory) = false)
    (hfind : disk.find (pathOf directory) true = .ok directory)
    (hdir : disk.node? directory = some .directory)
    (hnames : ∀ name ∈ disk.namesIn directory, Path.IsName name) :
    Ends (entriesOf (pathOf directory)) disk
      (.ok ((disk.namesIn directory).map fun name => pathOf (name :: directory))) disk := by
  refine ends_entriesOf_ok.2 ⟨directory, ⟨hclean, hfind⟩, hdir, ?_, rfl⟩
  rw [map_child_eq hnames, sort_map_pathOf, namesIn]

/-! ## Directories that can be read -/

/-- A directory whose path leads to it, with entries whose paths lead to them if they are not too
long. -/
structure Readable (disk : Disk) (directory : Location) : Prop where
  clean : hasNul (pathOf directory) = false
  leads : disk.find (pathOf directory) true = .ok directory
  stands : disk.node? directory = some .directory
  entry : ∀ name, disk.node? (name :: directory) ≠ none → disk.Entry name directory

/-- A file is at the entry. -/
def holdsFile (disk : Disk) (directory : Location) (name : String) : Bool :=
  (disk.node? (name :: directory)).any fun node =>
    match node with
    | .file _ _ => true
    | _ => false

/-- The names of the files of a directory that end in a suffix, in order. -/
def filesIn (disk : Disk) (directory : Location) (suffix : String) : List String :=
  (disk.namesIn directory).filter fun name =>
    hasSuffix suffix name && disk.holdsFile directory name

lemma name_pathOf (name : String) (directory : Location) :
    (pathOf (name :: directory)).name = name := by
  simp [pathOf, Path.name]

lemma Readable.isName (h : disk.Readable directory) (name : String)
    (hname : name ∈ disk.namesIn directory) : Path.IsName name :=
  (h.entry name (node?_of_mem_namesIn hname)).names name (List.mem_cons_self ..)

/-- An entry can be asked for its kind. -/
lemma ends_leadsTo_at (hentry : disk.Entry name directory) (hshort : ¬ TooLong (name :: directory))
    (kind : Node → Bool) :
    Ends (leadsTo kind (pathOf (name :: directory))) disk
      (.ok ((disk.node? (name :: directory)).any kind)) disk := by
  have hkind := acts_leadsTo name directory kind disk hentry
  unfold Effect.within at hkind
  rwa [if_neg hshort] at hkind

lemma ends_isFile_at (hentry : disk.Entry name directory)
    (hshort : ¬ TooLong (name :: directory)) :
    Ends (isFile (pathOf (name :: directory))) disk (.ok (disk.holdsFile directory name)) disk :=
  ends_leadsTo_at hentry hshort _

lemma Readable.ends_filesAmong (h : disk.Readable directory) : ∀ names : List String,
    (∀ name ∈ names, name ∈ disk.namesIn directory ∧ ¬ TooLong (name :: directory)) →
    Ends (filesAmong (names.map fun name => pathOf (name :: directory))) disk
      (.ok ((names.filter (disk.holdsFile directory)).map fun name => pathOf (name :: directory)))
      disk
  | [], _ => ends_pure.2 ⟨rfl, rfl⟩
  | name :: rest, hnames => by
      rw [List.forall_mem_cons] at hnames
      obtain ⟨⟨hthere, hshort⟩, hrest⟩ := hnames
      have hentry := h.entry name (node?_of_mem_namesIn hthere)
      refine (ends_isFile_at hentry hshort).bind
        ((h.ends_filesAmong rest hrest).bind (ends_pure.2 ⟨?_, rfl⟩))
      rw [List.filter_cons]
      split <;> rfl

/-- **The files of a directory with a suffix** are listed in the order of their names, if no name
with the suffix is too long. -/
theorem ends_filesWithSuffix_at (h : disk.Readable directory) (suffix : String)
    (hshort : ∀ name, disk.node? (name :: directory) ≠ none → hasSuffix suffix name = true →
      ¬ TooLong (name :: directory)) :
    Ends (filesWithSuffix (pathOf directory) suffix) disk
      (.ok ((disk.filesIn directory suffix).map fun name => pathOf (name :: directory))) disk := by
  have hfilter : (((disk.children directory).map Prod.fst).map fun name =>
      pathOf (name :: directory)).filter (fun path => hasSuffix suffix path.name) =
        (((disk.children directory).map Prod.fst).filter (hasSuffix suffix)).map
          fun name => pathOf (name :: directory) := by
    rw [List.filter_map]
    congr 1
    exact List.filter_congr fun name _ => by rw [Function.comp_apply, name_pathOf]
  have hfiles := h.ends_filesAmong (((disk.children directory).map Prod.fst).filter
    (hasSuffix suffix)) fun name hname => by
      obtain ⟨hthere, hsuffix⟩ := List.mem_filter.1 hname
      have hlisted : name ∈ disk.namesIn directory := by rwa [namesIn, List.mem_mergeSort]
      exact ⟨hlisted, hshort name (node?_of_mem_namesIn hlisted) hsuffix⟩
  refine (ends_listing_ok.2 ⟨directory, ⟨h.clean, h.leads⟩, h.stands, rfl, rfl⟩).bind ?_
  rw [map_child_eq h.isName, hfilter]
  refine hfiles.bind (ends_pure.2 ⟨?_, rfl⟩)
  rw [sort_map_pathOf, List.filter_filter, filesIn, namesIn, filter_mergeSort]
  simp only [Bool.and_comm]

end WasmCoverage.Disk
