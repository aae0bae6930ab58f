import WasmCoverage.Proofs.Disk.Contents
import WasmCoverage.Proofs.Tool.Neat
import WasmCoverage.Proofs.Workspace

/-!
# Tidy workspaces

In a workspace without links, among the stores and their entries at least, every path leads to the
place that it names (`Tidy.eq_of_find`), so what an operation touches can be read off its path.
`Alters` says of a step that it leaves a tidy workspace tidy and touches nothing but what it is
allowed to; it is kept from step to step, so that it is shown for the operations and the tools
here, and follows for whole phases.

A step may rely on some stores that are there; it must leave them there.
-/

namespace WasmCoverage

open WasmCoverage.Disk WasmCoverage.Text

lemma Disk.IsTree.directory_around {disk : Disk} (h : disk.IsTree) {location reached : Location}
    {follow : Bool} (hfind : disk.find (pathOf location) follow = .ok reached) :
    disk.node? reached.tail = some .directory :=
  directory_around_walk h rfl (find_eq_ok_iff.1 hfind).2

namespace Workspace

/-! ## Places -/

/-- The root, a store, or an entry of a store, but nothing in the raw store. -/
structure Managed (root location : Location) : Prop where
  below : root <:+ location
  short : location.length ≤ root.length + 2
  outside : ¬ Store.rawProfiles.directory :: root <:+ location

variable {workspace : Workspace} {root location : Location} {disk disk' : Disk} {store : Store}

/-- An entry of a store other than the raw one. -/
def Inside (root location : Location) : Prop :=
  ∃ name, ∃ store : Store, store ≠ .rawProfiles ∧ location = name :: store.directory :: root

lemma inside_store (name : String) (h : store ≠ .rawProfiles) :
    Inside root (name :: store.directory :: root) :=
  ⟨name, store, h, rfl⟩

lemma directory_inj {store other : Store} (h : store.directory = other.directory) :
    store = other := by
  revert h
  cases store <;> cases other <;> decide

lemma managed_store (h : store ≠ .rawProfiles) : Managed root (store.directory :: root) := by
  refine ⟨List.suffix_cons _ _, by simp, fun hraw => h ?_⟩
  exact (directory_inj (List.cons.inj (hraw.eq_of_length rfl)).1).symm

lemma Inside.managed (h : Inside root location) : Managed root location := by
  obtain ⟨name, store, hstore, rfl⟩ := h
  have hmanaged : Managed root (store.directory :: root) := managed_store hstore
  refine ⟨hmanaged.below.trans (List.suffix_cons _ _), by simp, fun hraw => ?_⟩
  rcases List.suffix_cons_iff.1 hraw with heq | hsuffix
  · simpa using congrArg List.length heq
  · exact hmanaged.outside hsuffix

/-- Places inside a store are deeper than those of the stores. -/
lemma Inside.not_suffix (h : Inside root location) (store : Store) :
    ¬ location <:+ store.directory :: root := by
  obtain ⟨name, other, -, rfl⟩ := h
  intro habove
  have hlength := habove.length_le
  simp only [List.length_cons] at hlength
  omega

lemma Inside.ne_store (h : Inside root location) (store : Store) :
    location ≠ store.directory :: root := by
  rintro rfl
  exact h.not_suffix store (List.suffix_refl _)

lemma Inside.ne_root (h : Inside root location) : location ≠ root := by
  rintro rfl
  exact h.not_suffix .staging (List.suffix_cons _ _)

/-- Nothing below an entry of a store is managed. -/
lemma Inside.eq_of_managed {place : Location} (h : Inside root location)
    (hplace : Managed root place) (hsuffix : location <:+ place) : place = location := by
  obtain ⟨name, store, -, rfl⟩ := h
  exact (hsuffix.eq_of_length_le (by simpa using hplace.short)).symm

/-! ## Tidiness -/

/-- A rooted workspace on a disk that lists every place once, without links among its stores and
their entries; what is in the raw store does not matter. -/
structure Tidy (workspace : Workspace) (root : Location) (disk : Disk) : Prop
    extends workspace.Rooted root disk where
  clean : hasNul (pathOf root) = false
  noLink : ∀ location, Managed root location → disk.NoLink location
  distinct : disk.Distinct

lemma Tidy.real (h : workspace.Tidy root disk) (hplace : Managed root location)
    (hnames : ∀ name ∈ location, Path.IsName name) : disk.Real location := by
  refine ⟨hnames, fun place hsuffix => ?_⟩
  rcases List.suffix_or_suffix_of_suffix hsuffix hplace.below with habove | hbelow
  · intro target hlink
    simp [h.tree.stands h.stands place habove] at hlink
  · exact h.noLink place ⟨hbelow, Nat.le_trans hsuffix.length_le hplace.short,
      fun hraw => hplace.outside (hraw.trans hsuffix)⟩

/-- **A path leads to the place that it names.** -/
theorem Tidy.eq_of_find (h : workspace.Tidy root disk) (hplace : Managed root location)
    (hnames : ∀ name ∈ location, Path.IsName name) {follow : Bool} {reached : Location}
    (hfind : disk.find (pathOf location) follow = .ok reached) : reached = location :=
  (h.real hplace hnames).eq_of_find hfind

lemma not_mem_directory (store : Store) : '\x00' ∉ store.directory.toList := by
  cases store <;> decide

/-- An entry of a directory that stands. -/
lemma Tidy.entry (h : workspace.Tidy root disk) {name : String} {directory : Location}
    (hdir : disk.node? directory = some .directory) (hlink : disk.NoLink (name :: directory))
    (hnames : ∀ n ∈ name :: directory, Path.IsName n)
    (hclean : hasNul (pathOf (name :: directory)) = false) : disk.Entry name directory :=
  ⟨h.tree.stands hdir, hnames, hclean, hlink⟩

lemma Tidy.entry_store (h : workspace.Tidy root disk)
    (hlink : disk.NoLink (store.directory :: root)) : disk.Entry store.directory root :=
  h.entry h.stands hlink (h.isName store)
    (hasNul_pathOf_cons.2 ⟨not_mem_directory store, h.clean⟩)

lemma Tidy.entry_managed (h : workspace.Tidy root disk) (hstore : store ≠ .rawProfiles) :
    disk.Entry store.directory root :=
  h.entry_store (h.noLink _ (managed_store hstore))

/-- An entry of a store that stands. -/
lemma Tidy.entry_below (h : workspace.Tidy root disk) {name : String}
    (hstore : store ≠ .rawProfiles)
    (hdir : disk.node? (store.directory :: root) = some .directory) (hname : Path.IsName name)
    (hnul : '\x00' ∉ name.toList) : disk.Entry name (store.directory :: root) :=
  h.entry hdir (h.noLink _ (inside_store name hstore).managed)
    (List.forall_mem_cons.2 ⟨hname, h.isName store⟩)
    (hasNul_pathOf_cons.2 ⟨hnul, hasNul_pathOf_cons.2 ⟨not_mem_directory store, h.clean⟩⟩)

/-! ## Steps -/

section Alters

variable (workspace : Workspace) (root : Location) (standing : Store → Prop)
  (Touched : Location → Option Node → Prop)

/-- The workspace is tidy, what was in the place of a store is there, and nothing was touched but
what may be. -/
structure Altered (before after : Disk) : Prop where
  tidy : workspace.Tidy root after
  kept : ∀ store : Store, before.node? (store.directory :: root) ≠ none →
    after.node? (store.directory :: root) = before.node? (store.directory :: root)
  here : after.here = before.here
  mounts : after.mounts = before.mounts
  node : ∀ location, after.node? location = before.node? location ∨
    Touched location (after.node? location)

/-- A step from a tidy workspace, in which some stores stand. -/
def Alters (before after : Disk) : Prop :=
  workspace.Tidy root before →
    (∀ store, standing store → before.node? (store.directory :: root) = some .directory) →
    Altered workspace root Touched before after

end Alters

variable {standing : Store → Prop} {Touched : Location → Option Node → Prop}

lemma Altered.refl (h : workspace.Tidy root disk) : Altered workspace root Touched disk disk :=
  ⟨h, fun _ _ => rfl, rfl, rfl, fun _ => Or.inl rfl⟩

/-- A store that stood stands. -/
lemma Altered.stands (h : Altered workspace root Touched disk disk')
    (hstands : disk.node? (store.directory :: root) = some .directory) :
    disk'.node? (store.directory :: root) = some .directory :=
  (h.kept store (by simp [hstands])).trans hstands

lemma Altered.trans {a b c : Disk} (h : Altered workspace root Touched a b)
    (h' : Altered workspace root Touched b c) : Altered workspace root Touched a c := by
  refine ⟨h'.tidy, fun store hthere => ?_, h'.here.trans h.here, h'.mounts.trans h.mounts,
    fun location => ?_⟩
  · have hfirst := h.kept store hthere
    rw [h'.kept store (by rwa [hfirst]), hfirst]
  · rcases h'.node location with heq | htouched
    · rw [heq]
      exact h.node location
    · exact Or.inr htouched

lemma Altered.mono {Touched' : Location → Option Node → Prop}
    (h : Altered workspace root Touched disk disk')
    (hmono : ∀ location node, Touched location node → Touched' location node) :
    Altered workspace root Touched' disk disk' :=
  { h with node := fun location => (h.node location).imp id (hmono location _) }

instance : Std.Refl (Alters workspace root standing Touched) :=
  ⟨fun _ h _ => Altered.refl h⟩

instance : IsTrans Disk (Alters workspace root standing Touched) :=
  ⟨fun _ _ _ h h' htidy hstanding =>
    (h htidy hstanding).trans (h' (h htidy hstanding).tidy fun store hstands =>
      (h htidy hstanding).stands (hstanding store hstands))⟩

/-- What is read is not altered. -/
lemma Alters.of_eq (h : disk = disk') : Alters workspace root standing Touched disk disk' :=
  h ▸ Std.Refl.refl disk

/-- A step that relies on no store. -/
lemma Alters.of_tidy (h : Alters workspace root (fun _ => False) Touched disk disk')
    (htidy : workspace.Tidy root disk) : Altered workspace root Touched disk disk' :=
  h htidy (by simp)

/-- A step that relies on one store. -/
lemma Alters.of_store (h : Alters workspace root (· = store) Touched disk disk')
    (htidy : workspace.Tidy root disk)
    (hstands : disk.node? (store.directory :: root) = some .directory) :
    Altered workspace root Touched disk disk' :=
  h htidy (by simpa using hstands)

lemma Tidy.of_altered (h : workspace.Tidy root disk) (htree : disk'.IsTree)
    (hdistinct : disk'.Distinct)
    (hnode : ∀ place, disk'.node? place = disk.node? place ∨
      (place ≠ root ∧ (Managed root place → disk'.NoLink place))) :
    workspace.Tidy root disk' := by
  refine ⟨h.toRooted.of_node? htree ?_, h.clean, fun place hplace target hlink => ?_, hdistinct⟩
  · exact (hnode root).resolve_right fun hroot => hroot.1 rfl
  · rcases hnode place with heq | ⟨-, hnone⟩
    · exact h.noLink place hplace target (heq ▸ hlink)
    · exact hnone hplace target hlink

section Change

variable (h : workspace.Tidy root disk)

include h

/-- A node is put in place of nothing or of a file. -/
lemma Tidy.altered_put {node : Node} (hne : location ≠ root)
    (hnew : ∀ store : Store, location = store.directory :: root → disk.node? location = none)
    (haround : disk.node? location.tail = some .directory)
    (hbefore : Plain (disk.node? location)) (hlink : ∀ target, node ≠ .link target)
    (htouched : Touched location (some node)) :
    Altered workspace root Touched disk (disk.put location node) := by
  have hnil : location ≠ [] := Plain.ne_nil hbefore
  have hnode (place : Location) : (disk.put location node).node? place = disk.node? place ∨
      place = location ∧ (disk.put location node).node? place = some node := by
    rw [node?_put hnil]
    split
    · next heq => exact Or.inr ⟨heq, rfl⟩
    · exact Or.inl rfl
  have hkept {place : Location} (hdir : disk.node? place = some .directory) :
      (disk.put location node).node? place = some .directory := by
    rw [node?_put hnil, if_neg (by rintro rfl; exact hbefore.ne_directory hdir), hdir]
  refine ⟨h.of_altered (fun name directory hthere => ?_) (h.distinct.put _ _) fun place => ?_,
    fun store hthere => ?_, rfl, rfl, fun place => ?_⟩
  · refine hkept ?_
    rcases hnode (name :: directory) with heq | ⟨rfl, -⟩
    · exact h.tree name directory (heq ▸ hthere)
    · exact haround
  · refine (hnode place).imp id ?_
    rintro ⟨rfl, heq⟩
    exact ⟨hne, fun _ target hlinked =>
      hlink target (Option.some.inj (heq.symm.trans hlinked))⟩
  · refine (hnode _).resolve_right ?_
    rintro ⟨heq, -⟩
    exact hthere (heq ▸ hnew store heq.symm)
  · refine (hnode place).imp id ?_
    rintro ⟨rfl, heq⟩
    rwa [heq]

variable (hinside : Inside root location)

include hinside

/-- Something of an entry is removed. -/
lemma Tidy.altered_removed (htree : disk'.IsTree) (hdistinct : disk'.Distinct)
    (hhere : disk'.here = disk.here) (hmounts : disk'.mounts = disk.mounts)
    (hnode : ∀ place, disk'.node? place = disk.node? place ∨
      location <:+ place ∧ disk'.node? place = none)
    (htouched : ∀ place, location <:+ place → disk.node? place ≠ none → Touched place none) :
    Altered workspace root Touched disk disk' := by
  have hplace := hinside.managed
  have hne := hinside.ne_root
  refine ⟨h.of_altered htree hdistinct fun place => ?_, fun store _ => ?_, hhere, hmounts,
    fun place => ?_⟩
  · refine (hnode place).imp id fun ⟨hsuffix, hnone⟩ => ⟨?_, ?_⟩
    · rintro rfl
      exact hne (hsuffix.eq_of_length (Nat.le_antisymm hsuffix.length_le hplace.below.length_le))
    · intro _ target hlink
      cases hnone.symm.trans hlink
  · exact (hnode _).resolve_right fun hgone => hinside.not_suffix store hgone.1
  · rcases hnode place with heq | ⟨hsuffix, hnone⟩
    · exact Or.inl heq
    · by_cases hthere : disk.node? place = none
      · exact Or.inl (hnone.trans hthere.symm)
      · exact Or.inr (hnone ▸ htouched place hsuffix hthere)

/-- An entry is removed, with whatever is below it. -/
lemma Tidy.altered_drop
    (htouched : ∀ place, location <:+ place → disk.node? place ≠ none → Touched place none) :
    Altered workspace root Touched disk (disk.drop location) := by
  have hnil : location ≠ [] := by
    rintro rfl
    exact hinside.ne_root (List.suffix_nil.1 hinside.managed.below).symm
  refine h.altered_removed hinside (h.tree.drop hnil) (h.distinct.drop _) rfl rfl
    (fun place => ?_) htouched
  by_cases hsuffix : location <:+ place
  · exact Or.inr ⟨hsuffix, node?_drop_of_suffix disk hnil hsuffix⟩
  · exact Or.inl (node?_drop_of_not_suffix disk hsuffix)

/-- A file comes, goes or changes. -/
lemma Tidy.altered_refiles {places : Location → Prop} (hrefiles : Refiles places disk disk')
    (hplaces : ∀ place, places place →
      place = location ∧ disk.node? place.tail = some .directory)
    (hdistinct : disk'.Distinct) (htouched : ∀ node, Plain node → Touched location node) :
    Altered workspace root Touched disk disk' := by
  have hnode (place : Location) : disk'.node? place = disk.node? place ∨
      place = location ∧ Plain (disk'.node? place) :=
    (hrefiles.node place).imp id fun hplain => ⟨(hplaces place hplain.1).1, hplain.2.2⟩
  refine ⟨h.of_altered (h.tree.refiles hrefiles fun name directory hdir =>
      (hplaces _ hdir).2) hdistinct fun place => ?_,
    fun store _ => ?_, hrefiles.here, hrefiles.mounts, fun place => ?_⟩
  · refine (hnode place).imp id ?_
    rintro ⟨rfl, hplain⟩
    exact ⟨hinside.ne_root, fun _ => hplain.ne_link⟩
  · exact (hnode _).resolve_right fun hmoved => hinside.ne_store store hmoved.1.symm
  · refine (hnode place).imp id ?_
    rintro ⟨rfl, hplain⟩
    exact htouched _ hplain

/-- A tree is made or changed. -/
lemma Tidy.altered_within {places : Location → Prop} (htree : disk'.IsTree)
    (hwithin : Within places disk disk') (hplaces : ∀ place, places place → place = location)
    (hdistinct : disk'.Distinct) (hlink : disk'.NoLink location)
    (htouched : ∀ place node, location <:+ place → Touched place node) :
    Altered workspace root Touched disk disk' := by
  have hplace := hinside.managed
  have hne := hinside.ne_root
  have hnode (place : Location) : disk'.node? place = disk.node? place ∨ location <:+ place := by
    by_cases hsuffix : location <:+ place
    · exact Or.inr hsuffix
    · exact Or.inl (hwithin.node place fun other hother => hplaces other hother ▸ hsuffix)
  refine ⟨h.of_altered htree hdistinct fun place => ?_,
    fun store _ => (hnode _).resolve_right (hinside.not_suffix store), hwithin.here,
    hwithin.mounts, fun place => (hnode place).imp id (htouched place _)⟩
  refine (hnode place).imp id fun hsuffix => ⟨?_, ?_⟩
  · rintro rfl
    exact hne (hsuffix.eq_of_length (Nat.le_antisymm hsuffix.length_le hplace.below.length_le))
  · exact fun hmanaged => hinside.eq_of_managed hmanaged hsuffix ▸ hlink

end Change

/-! ## Operations -/

section Operations

variable (hinside : Inside root location) (hnames : ∀ name ∈ location, Path.IsName name)

include hinside hnames

/-- Removing a file touches its place. -/
theorem alters_removeIfThere (htouched : Touched location none) :
    Respects (Alters workspace root standing Touched) (removeIfThere (pathOf location)) := by
  refine Respects.tryCatch (fun disk r disk' h htidy hstanding => ?_) fun error => ?_
  · rcases remove_spec h with ⟨-, rfl⟩ | ⟨reached, hfind, hrest⟩
    · exact Altered.refl htidy
    · obtain rfl := htidy.eq_of_find hinside.managed hnames hfind
      rcases hrest with ⟨-, -, rfl⟩ | ⟨-, -, rfl⟩ | ⟨-, hnode, -, rfl⟩
      · exact Altered.refl htidy
      · exact Altered.refl htidy
      · refine htidy.altered_drop hinside fun place hsuffix hthere => ?_
        obtain rfl : place = reached := by
          by_contra hother
          exact hthere (htidy.tree.node?_below hnode hsuffix hother)
        exact htouched
  · split
    · split
      · exact Respects.pure _
      · exact Respects.throw _
    · exact Respects.throw _

/-- Removing a tree touches its place and what is below it, whether or not it is stopped. -/
theorem alters_removeTree (htouched : ∀ place, location <:+ place → Touched place none) :
    Respects (Alters workspace root standing Touched) (removeTree (pathOf location)) := by
  intro disk r disk' h htidy hstanding
  rcases removeTree_spec h with ⟨-, rfl⟩ | ⟨reached, hfind, -, hrest⟩
  · exact Altered.refl htidy
  · obtain rfl := htidy.eq_of_find hinside.managed hnames hfind
    rcases hrest with ⟨-, rfl⟩ | ⟨-, hstopped⟩
    · exact htidy.altered_drop hinside fun place hsuffix _ => htouched place hsuffix
    · exact htidy.altered_removed hinside (hstopped.isTree htidy.tree)
        (hstopped.distinct htidy.distinct) hstopped.here hstopped.mounts
        (fun place => (hstopped.node? place).imp_right fun hgone => ⟨hgone.1, hgone.2.2⟩)
        fun place hsuffix _ => htouched place hsuffix

/-- Writing a file touches its place. -/
theorem alters_write (htouched : ∀ data executable, Touched location (some (.file data executable)))
    (data : Octets) :
    Respects (Alters workspace root standing Touched) (write (pathOf location) data) := by
  intro disk r disk' h htidy hstanding
  rcases write_spec h with ⟨-, rfl⟩ | ⟨-, -, reached, executable, hfind, hplain, rfl⟩
  · exact Altered.refl htidy
  · obtain rfl := htidy.eq_of_find hinside.managed hnames hfind
    exact htidy.altered_put hinside.ne_root (fun store heq => absurd heq (hinside.ne_store store))
      (htidy.tree.directory_around hfind) hplain (by simp) (htouched data executable)

end Operations

/-! ## Stores -/

section Stores

variable {w w' : World}

/-- A directory of a store is made, or nothing is touched. -/
lemma Tidy.altered_makeDirectories {r : Except Error Unit} (h : workspace.Tidy root disk)
    (hlink : disk.NoLink (store.directory :: root))
    (hmake : Ends (makeDirectories (pathOf (store.directory :: root))) disk r disk')
    (htouched : disk.node? (store.directory :: root) = none →
      Touched (store.directory :: root) (some .directory)) :
    Altered workspace root Touched disk disk' := by
  obtain ⟨-, rfl⟩ := hmake.unique (acts_makeDirectories _ _ disk (h.entry_store hlink))
  unfold Effect.within
  split
  · exact Altered.refl h
  · cases hnode : disk.node? (store.directory :: root) with
    | none =>
      exact h.altered_put (List.cons_ne_self _ _) (fun _ _ => hnode) h.stands (Or.inl hnode)
        (by simp) (htouched hnode)
    | some node => cases node <;> exact Altered.refl h

/-- **Asking for a store** makes its directory, or nothing is touched. -/
theorem Tidy.altered_store {r : Except Fault Path} (h : workspace.Tidy root w.disk)
    (hlink : w.disk.NoLink (store.directory :: root))
    (hend : Ends (workspace.store store) w r w')
    (htouched : w.disk.node? (store.directory :: root) = none →
      Touched (store.directory :: root) (some .directory)) :
    Altered workspace root Touched w.disk w'.disk := by
  rcases ends_bind.1 hend with ⟨found, t, hroot, hrest⟩ | ⟨fault, hroot, -⟩
  · obtain ⟨heq, rfl⟩ := (ends_root h.bound).unique hroot
    obtain rfl := Except.ok.inj heq
    rw [child_pathOf root (isName_directory store)] at hrest
    rcases ends_bind.1 hrest with ⟨⟨⟩, t, hmake, hlast⟩ | ⟨fault, hmake, -⟩
    · obtain ⟨-, rfl⟩ := ends_pure.1 hlast
      obtain ⟨result, disk, hmade, -, rfl⟩ := ends_onDiskOr.1 hmake
      exact h.altered_makeDirectories hlink hmade htouched
    · obtain ⟨result, disk, hmade, -, rfl⟩ := ends_onDiskOr.1 hmake
      exact h.altered_makeDirectories hlink hmade htouched
  · cases ((ends_root h.bound).unique hroot).1

variable (hstore : store = .rawProfiles → standing store)
  (htouched : store ≠ .rawProfiles → Touched (store.directory :: root) (some .directory))

include hstore htouched

/-- The raw store must stand for this, as it may be a link. -/
lemma alters_makeDirectories :
    Respects (Alters workspace root standing Touched)
      (makeDirectories (pathOf (store.directory :: root))) := by
  intro disk r disk' h htidy hstanding
  by_cases hraw : store = .rawProfiles
  · have hstands := hstanding _ (hstore hraw)
    exact htidy.altered_makeDirectories (by simp [NoLink, hstands]) h (by simp [hstands])
  · exact htidy.altered_makeDirectories (htidy.noLink _ (managed_store hraw)) h
      fun _ => htouched hraw

lemma alters_store :
    Respects (OnDisk (Alters workspace root standing Touched)) (workspace.store store) := by
  intro w r w' h htidy hstanding
  by_cases hraw : store = .rawProfiles
  · have hstands := hstanding _ (hstore hraw)
    exact htidy.altered_store (by simp [NoLink, hstands]) h (by simp [hstands])
  · exact htidy.altered_store (htidy.noLink _ (managed_store hraw)) h fun _ => htouched hraw

end Stores

lemma alters_managed_store (hstore : store ≠ .rawProfiles)
    (htouched : Touched (store.directory :: root) (some .directory)) :
    Respects (OnDisk (Alters workspace root standing Touched)) (workspace.store store) :=
  alters_store (fun hraw => absurd hraw hstore) fun _ => htouched

/-- **A store is there or is made**, if its path is not too long. -/
theorem Tidy.ends_store {w : World} (h : workspace.Tidy root w.disk)
    (hshort : ¬ TooLong (store.directory :: root))
    (hnode : w.disk.node? (store.directory :: root) = none ∨
      w.disk.node? (store.directory :: root) = some .directory) : ∃ disk,
    Ends (workspace.store store) w (.ok (pathOf (store.directory :: root))) { w with disk } := by
  have hlink : w.disk.NoLink (store.directory :: root) := fun target hlink => by
    rcases hnode with hnode | hnode <;> cases hnode.symm.trans hlink
  have hmake := acts_makeDirectories _ _ w.disk (h.entry_store hlink)
  unfold Effect.within at hmake
  rw [if_neg hshort] at hmake
  rcases hnode with hnode | hnode
  all_goals rw [hnode] at hmake
  all_goals exact ⟨_, ends_store_of_made h.bound hmake⟩

/-- **A store that was asked for stands**, and its path is not too long. -/
theorem Tidy.stands_of_store {w w' : World} {path : Path} (h : workspace.Tidy root w.disk)
    (hlink : w.disk.NoLink (store.directory :: root))
    (hend : Ends (workspace.store store) w (.ok path) w') :
    path = pathOf (store.directory :: root) ∧
      w'.disk.node? (store.directory :: root) = some .directory ∧
      ¬ TooLong (store.directory :: root) := by
  obtain ⟨rfl, -⟩ := rooted_store h.toRooted hend
  have haltered : Altered workspace root (fun _ node => node = some .directory) w.disk w'.disk :=
    h.altered_store hlink hend fun _ => rfl
  have hlink' : w'.disk.NoLink (store.directory :: root) := by
    intro target hnode
    rcases haltered.node (store.directory :: root) with heq | hdir
    · exact hlink target (heq ▸ hnode)
    · cases hdir.symm.trans hnode
  obtain ⟨place, hfind, hdir⟩ := (hasDirectory_store hend).2
  rw [find_at (haltered.tidy.entry_store hlink')] at hfind
  split at hfind
  · cases hfind
  · next hshort =>
    obtain rfl := Except.ok.inj hfind
    exact ⟨rfl, hdir, hshort⟩

end Workspace

end WasmCoverage
