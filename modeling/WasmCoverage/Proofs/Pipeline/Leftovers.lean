import WasmCoverage.Proofs.Disk.Agreeing
import WasmCoverage.Proofs.Pipeline.Record

/-!
# What report runs leave

Report runs leave profiles, reports and a record.  Two disks that have the same but for these
(`DifferInLeftovers`) are `Twins`: some places are apart, all of them left over, and where both
disks change to the same they are apart no more (`Twins.altered`).  Samples and objects are not
left over, so whatever a run reads of them it reads alike: the groups (`Twins.groups`), and the
object for a name (`Twins.same_objectIn`).
-/

namespace WasmCoverage

open WasmCoverage.Disk WasmCoverage.Workspace

namespace Pipeline

variable {pipeline : Pipeline} {tools : Toolbox} {extra : List String} {root : Location}
  {workspace : Workspace} {disk other : Disk} {apart : Location → Prop} {w v : World}

/-! ## What report runs read and leave -/

/-- The place of the store of raw samples. -/
abbrev rawPlace (root : Location) : Location :=
  Store.rawProfiles.directory :: root

/-- There are samples of the group, and they are in the raw store. -/
structure Sampled (root : Location) (group : Group) : Prop where
  ne_nil : group.samples ≠ []
  place : ∀ sample ∈ group.samples, ∃ location, rawPlace root <:+ location ∧
    (∀ name ∈ location, Path.IsName name) ∧ sample = pathOf location

/-- The place of the profile of a group. -/
abbrev profilePlace (root : Location) (made : String) : Location :=
  (made ++ mergedSuffix) :: Store.mergedProfiles.directory :: root

/-- The place of the report of a binary. -/
abbrev treePlace (root : Location) (made : String) : Location :=
  made :: Store.reports.directory :: root

/-- The place is in a store that report runs write to. -/
def Leftover (root location : Location) : Prop :=
  Store.mergedProfiles.directory :: root <:+ location ∨
    Store.reports.directory :: root <:+ location

/-- The step touched nothing but some places, and left there what is expected. -/
abbrev Touches (workspace : Workspace) (root : Location) (P : Location → Prop) :
    Disk → Disk → Prop :=
  Altered workspace root fun place node => P place ∧ Expected root place node

section Touches

variable {disk' : Disk} {P : Location → Prop} (h : Touches workspace root P disk disk')

include h

lemma Touches.settled (hsettled : Settled workspace root disk) : Settled workspace root disk' :=
  settled_of_altered hsettled (h.mono fun _ _ => And.right)

lemma Touches.node?_eq {location : Location} (hP : ¬ P location) :
    disk'.node? location = disk.node? location :=
  (h.node location).resolve_right fun htouched => hP htouched.1

end Touches

/-- Two disks with settled workspaces that have the same but for what report runs leave. -/
structure SameInputs (workspace : Workspace) (root : Location) (disk other : Disk) : Prop where
  left : Settled workspace root disk
  right : Settled workspace root other
  here : other.here = disk.here
  node : ∀ location, ¬ Leftover root location → other.node? location = disk.node? location

/-- No links are among the samples, what is left in the place of a report is a directory, and the
system lets go of whatever is left. -/
structure DifferInLeftovers (workspace : Workspace) (root : Location) (disk other : Disk) : Prop
    extends SameInputs workspace root disk other where
  samples : ∀ location, rawPlace root <:+ location → disk.NoLink location
  trees : ∀ made ∉ [reportRecord, reportDocument],
    ∀ node ∈ [disk.node? (treePlace root made), other.node? (treePlace root made)],
      node = none ∨ node = some .directory
  free : ∀ d ∈ [disk, other], ∀ place ∈ d.mounts, ¬ Store.reports.directory :: root <:+ place

/-- The disks differ in the places that are apart only. -/
structure Twins (workspace : Workspace) (root : Location) (apart : Location → Prop)
    (disk other : Disk) : Prop where
  left : Settled workspace root disk
  right : Settled workspace root other
  here : other.here = disk.here
  leftover : ∀ location, apart location → Leftover root location
  node : ∀ location, ¬ apart location → other.node? location = disk.node? location
  samples : ∀ location, rawPlace root <:+ location → disk.NoLink location
  trees : ∀ made ∉ [reportRecord, reportDocument], apart (treePlace root made) →
    ∀ node ∈ [disk.node? (treePlace root made), other.node? (treePlace root made)],
      node = none ∨ node = some .directory
  free : ∀ d ∈ [disk, other], ∀ place ∈ d.mounts, ¬ Store.reports.directory :: root <:+ place

lemma DifferInLeftovers.twins (h : DifferInLeftovers workspace root disk other) :
    Twins workspace root (Leftover root) disk other :=
  ⟨h.left, h.right, h.here, fun _ => id, h.node, h.samples,
    fun made hmade _ => h.trees made hmade, h.free⟩

/-- What is in a store is in no other. -/
lemma not_below_other {store other : Store} (hne : store ≠ other) {location place : Location}
    (hlocation : store.directory :: root <:+ location) (hplace : place <:+ location) :
    ¬ other.directory :: root <:+ place := by
  intro hother
  have heq := (List.suffix_of_suffix_length_le (hother.trans hplace) hlocation
    (by simp)).eq_of_length (by simp)
  exact hne (directory_inj (List.cons.inj heq).1.symm)

/-- What is in another store is not left over. -/
lemma not_leftover (store : Store) {location place : Location}
    (hstore : store ≠ .mergedProfiles ∧ store ≠ .reports)
    (hlocation : store.directory :: root <:+ location) (hplace : place <:+ location) :
    ¬ Leftover root place := by
  rintro (hsuffix | hsuffix)
  · exact not_below_other hstore.1 hlocation hplace hsuffix
  · exact not_below_other hstore.2 hlocation hplace hsuffix

namespace Twins

lemma sameInputs (h : Twins workspace root apart disk other) :
    SameInputs workspace root disk other :=
  ⟨h.left, h.right, h.here, fun location hlocation =>
    h.node location fun hapart => hlocation (h.leftover location hapart)⟩

lemma agree (h : Twins workspace root apart disk other) :
    Agree (fun location => ¬ apart location) disk other :=
  ⟨h.here, h.node⟩

lemma not_apart {location : Location} (h : Twins workspace root apart disk other)
    (hlocation : ¬ Leftover root location) : ¬ apart location :=
  fun hapart => hlocation (h.leftover location hapart)

/-- No report is held. -/
lemma not_held (h : Twins workspace root apart disk other) (made : String) :
    ¬ disk.Held (treePlace root made) ∧ ¬ other.Held (treePlace root made) := by
  have hfree := h.free
  rw [List.forall_mem_cons, List.forall_mem_singleton] at hfree
  have hbelow : Store.reports.directory :: root <:+ treePlace root made := List.suffix_cons _ _
  exact ⟨not_held_of_mounts fun place hplace hsuffix => hfree.1 place hplace (hbelow.trans hsuffix),
    not_held_of_mounts fun place hplace hsuffix => hfree.2 place hplace (hbelow.trans hsuffix)⟩

/-- **Where both disks change to the same, nothing is apart any more.** -/
theorem altered {disk' other' : Disk} {P : Location → Prop}
    (h : Twins workspace root apart disk other) (haltered : Touches workspace root P disk disk')
    (haltered' : Touches workspace root P other other')
    (hsame : ∀ location, P location → other'.node? location = disk'.node? location)
    (hsamples : ∀ location, P location → rawPlace root <:+ location → disk'.NoLink location) :
    Twins workspace root (fun location => apart location ∧ ¬ P location) disk' other' where
  left := haltered.settled h.left
  right := haltered'.settled h.right
  here := by rw [haltered.here, haltered'.here, h.here]
  leftover location hlocation := h.leftover location hlocation.1
  node location hlocation := by
    by_cases hP : P location
    · exact hsame location hP
    · rw [haltered.node?_eq hP, haltered'.node?_eq hP]
      exact h.node location fun hapart => hlocation ⟨hapart, hP⟩
  samples location hlocation := by
    by_cases hP : P location
    · exact hsamples location hP hlocation
    · intro target
      rw [haltered.node?_eq hP]
      exact h.samples location hlocation target
  trees made hmade hlocation := by
    rw [haltered.node?_eq hlocation.2, haltered'.node?_eq hlocation.2]
    exact h.trees made hmade hlocation.1
  free := by
    have hfree := h.free
    rw [List.forall_mem_cons, List.forall_mem_singleton] at hfree ⊢
    rwa [haltered.mounts, haltered'.mounts]

/-! ## Reading what is not left over -/

/-- The way to a place in a store is straight, if it meets no link and nothing is left over in the
store. -/
lemma straight (h : Twins workspace root apart disk other) {store : Store}
    (hstore : store ≠ .mergedProfiles ∧ store ≠ .reports) {location : Location}
    (hbelow : store.directory :: root <:+ location)
    (hnames : ∀ name ∈ location, Path.IsName name)
    (hlink : ∀ place, store.directory :: root <:+ place → place <:+ location →
      disk.NoLink place) :
    Straight (fun location => ¬ apart location) disk location where
  names hup := (hnames _ hup).ne_up rfl
  keeps place hplace := h.not_apart (not_leftover store hstore hbelow hplace)
  noLink place hplace target htarget := by
    rcases List.suffix_or_suffix_of_suffix hplace hbelow with habove | hinside
    · rcases List.suffix_cons_iff.1 habove with rfl | habove
      · exact hlink _ List.suffix_rfl hplace target htarget
      · cases htarget.symm.trans (h.left.tree.stands h.left.stands place habove)
    · exact hlink place hinside hplace target htarget

/-- The way to a sample is straight. -/
lemma straight_sample (h : Twins workspace root apart disk other) {location : Location}
    (hraw : rawPlace root <:+ location) (hnames : ∀ name ∈ location, Path.IsName name) :
    Straight (fun location => ¬ apart location) disk location :=
  h.straight (by decide) hraw hnames fun place hplace _ => h.samples place hplace

/-- A directory of samples can be read. -/
lemma legible_samples (h : Twins workspace root apart disk other) (hnamed : disk.Named)
    {location : Location} (hraw : rawPlace root <:+ location)
    (hnames : ∀ name ∈ location, Path.IsName name) :
    Legible (fun location => ¬ apart location) disk location where
  straight := h.straight_sample hraw hnames
  region name := h.not_apart (not_leftover .rawProfiles (by decide)
    (hraw.trans (List.suffix_cons name location)) List.suffix_rfl)
  isName name hthere := hnamed name location hthere
  noLink name := h.samples _ (hraw.trans (List.suffix_cons name location))

/-- A profile has the same content if it is the same. -/
lemma content?_profile (h : Twins workspace root apart disk other) {name made : String}
    (hplace : Placeable root name made) (hsame : ¬ apart (profilePlace root made)) :
    other.content? (pathOf (profilePlace root made)) =
      disk.content? (pathOf (profilePlace root made)) := by
  refine Option.ext fun data => ?_
  rw [h.left.content?_profile hplace, h.right.content?_profile hplace, h.node _ hsame]

/-- A store that objects are looked for in can be read. -/
lemma legible_searched (h : Twins workspace root apart disk other) {store : Store}
    (hstore : store ∈ searched) :
    Legible (fun location => ¬ apart location) disk (store.directory :: root) := by
  have hne : store ≠ .mergedProfiles ∧ store ≠ .reports := by
    revert store
    decide
  have hmanaged := ne_rawProfiles_of_searched hstore
  refine ⟨h.straight hne List.suffix_rfl (h.left.isName store) fun place hbelow habove => ?_,
    fun name => ?_, fun name hthere => ((h.left.expected _).object name store hstore rfl hthere).1,
    fun name => h.left.noLink _ (inside_store name hmanaged).managed⟩
  · obtain rfl := hbelow.eq_of_length (le_antisymm hbelow.length_le habove.length_le)
    exact h.left.noLink _ (managed_store hmanaged)
  · exact h.not_apart (not_leftover store hne (List.suffix_cons name _) List.suffix_rfl)

/-- **An object is looked for alike.** -/
theorem same_objectIn (h : Twins workspace root apart disk other) {store : Store}
    (hstore : store ∈ searched) {name : String} (hname : Path.IsName (name ++ objectSuffix)) :
    Same (objectIn name (pathOf (store.directory :: root))) disk other := by
  have hlegible := h.legible_searched hstore
  unfold objectIn
  rw [child_pathOf _ hname]
  refine same_bind (same_leadsTo h.agree (hlegible.entry hname.ne_up) _) fun there _ => ?_
  split
  · exact same_pure _
  · refine same_bind (same_entriesOf h.agree hlegible.straight h.left.distinct h.right.distinct
      hlegible.region) fun entries hentries => same_firstFile fun path hpath => ?_
    obtain ⟨entry, hentry, -, rfl⟩ := hlegible.of_mem h.agree h.left.distinct hentries
      (List.mem_of_mem_filter hpath)
    exact same_leadsTo h.agree (hlegible.entry hentry.ne_up) _

/-- The place of an object that was found. -/
lemma place_of_objectIn (h : Twins workspace root apart disk other) {store : Store}
    (hstore : store ∈ searched) {name : String} (hname : Path.IsName (name ++ objectSuffix))
    {object : Path} (hend : Ends (objectIn name (pathOf (store.directory :: root))) disk
      (.ok (some object)) disk) :
    ∃ entry, Path.IsName entry ∧ object = pathOf (entry :: store.directory :: root) := by
  unfold objectIn at hend
  rw [child_pathOf _ hname] at hend
  obtain ⟨there, d, hthere, hrest⟩ := ends_bind_ok.1 hend
  obtain rfl := respects_isFile _ _ _ hthere
  split at hrest
  · obtain ⟨hfound, -⟩ := ends_pure.1 hrest
    exact ⟨_, hname, Option.some.inj (Except.ok.inj hfound)⟩
  · obtain ⟨entries, d', hentries, hfirst⟩ := ends_bind_ok.1 hrest
    obtain rfl := respects_entriesOf _ _ _ hentries
    obtain ⟨entry, hentry, -, rfl⟩ := (h.legible_searched hstore).of_mem h.agree h.left.distinct
      hentries (List.mem_of_mem_filter (mem_of_firstFile hfirst))
    exact ⟨entry, hentry, rfl⟩

/-- The samples are the same, if all entries can be asked about. -/
lemma answersAlike_groupsAmong (h : Twins workspace root apart disk other) (hnamed : disk.Named) :
    ∀ {entries : List Path}, (∀ entry ∈ entries, ∃ name, Path.IsName name ∧
      entry = pathOf (name :: rawPlace root)) →
    AnswersAlike (fun disk' other' => disk' = disk ∧ other' = other) (groupsAmong entries)
      (groupsAmong entries) disk other
  | [], _ => (same_pure _).answersAlike
  | entry :: rest, hentries => by
      rw [List.forall_mem_cons] at hentries
      obtain ⟨⟨name, hname, rfl⟩, hrest⟩ := hentries
      have hraw : rawPlace root <:+ name :: rawPlace root := List.suffix_cons _ _
      have hnames : ∀ n ∈ name :: rawPlace root, Path.IsName n :=
        List.forall_mem_cons.2 ⟨hname, h.left.isName .rawProfiles⟩
      have hrest' := answersAlike_groupsAmong h hnamed hrest
      have hdirectory := same_leadsTo h.agree (h.straight_sample hraw hnames)
        fun node => node = .directory
      refine hdirectory.answersAlike.bind fun there _ _ ⟨hdisk, hother⟩ => ?_
      subst hdisk hother
      split
      · refine AnswersAlike.bind (fun samples _ hend => ?_) fun samples _ _ ⟨hdisk, hother⟩ => ?_
        · obtain rfl := respects_filesWithSuffix _ _ _ _ hend
          exact ⟨_, same_files_of_ends h.agree (h.legible_samples hnamed hraw hnames)
            h.left.distinct h.right.distinct hend, rfl, rfl⟩
        · subst hdisk hother
          refine hrest'.bind fun others _ _ ⟨hdisk, hother⟩ => ?_
          subst hdisk hother
          exact (same_pure _).answersAlike
      · exact hrest'

/-! ## Stores -/

/-- There is no link in the place of a store, and nothing or a directory if it stands on the other
disk. -/
lemma store_right (h : Twins workspace root apart disk other) {store : Store}
    (hnode : store = .rawProfiles → disk.node? (store.directory :: root) = none ∨
      disk.node? (store.directory :: root) = some .directory) :
    other.node? (store.directory :: root) = none ∨
      other.node? (store.directory :: root) = some .directory := by
  by_cases hraw : store = .rawProfiles
  · subst hraw
    rw [h.node _ (h.not_apart (not_leftover .rawProfiles (by decide) List.suffix_rfl
      List.suffix_rfl))]
    exact hnode rfl
  · exact (h.right.expected _).store store hraw rfl

lemma noLink_store (h : Twins workspace root apart disk other) (store : Store) :
    disk.NoLink (store.directory :: root) := by
  by_cases hraw : store = .rawProfiles
  · subst hraw
    exact h.samples _ List.suffix_rfl
  · exact h.left.noLink _ (managed_store hraw)

/-- Asking for a store touches its place only. -/
lemma touches_of_store {store : Store} {path : Path} {w' : World}
    (h : Settled workspace root w.disk) (hlink : w.disk.NoLink (store.directory :: root))
    (hend : Ends (workspace.store store) w (.ok path) w') :
    Touches workspace root (· = store.directory :: root) w.disk w'.disk :=
  h.altered_store hlink hend fun _ => ⟨rfl, expected_store store⟩

/-- **A store that was asked for stands on both disks.** -/
theorem store (h : Twins workspace root apart w.disk v.disk) {store : Store} {path : Path}
    {w' : World} (hend : Ends (workspace.store store) w (.ok path) w') : ∃ v',
    Ends (workspace.store store) v (.ok path) v' ∧ v' = { v with disk := v'.disk } ∧
      Twins workspace root (fun location => apart location ∧ location ≠ store.directory :: root)
        w'.disk v'.disk ∧
      w'.disk.node? (store.directory :: root) = some .directory ∧
      v'.disk.node? (store.directory :: root) = some .directory := by
  obtain ⟨rfl, hstands, hshort⟩ := h.left.stands_of_store (h.noLink_store store) hend
  have htouches := touches_of_store h.left (h.noLink_store store) hend
  have hnode (hraw : store = .rawProfiles) : w.disk.node? (store.directory :: root) = none ∨
      w.disk.node? (store.directory :: root) = some .directory := by
    rcases Option.eq_none_or_eq_some (w.disk.node? (store.directory :: root)) with hnone |
      ⟨node, hnode⟩
    · exact Or.inl hnone
    · refine Or.inr ?_
      have hsame := (rooted_store h.left.toRooted hend).2.2 (by simp [hnode])
      rw [← hstands, hsame]
  have hright := h.store_right hnode
  obtain ⟨disk', hend'⟩ := h.right.ends_store hshort hright
  have hlink : v.disk.NoLink (store.directory :: root) := by
    intro target htarget
    rcases hright with hnone | hdir
    · cases htarget.symm.trans hnone
    · cases htarget.symm.trans hdir
  have hstands' := (h.right.stands_of_store hlink hend').2.1
  refine ⟨_, hend', rfl, ?_, hstands, hstands'⟩
  refine h.altered htouches (touches_of_store h.right hlink hend') (fun location hplace => ?_)
    fun location hplace _ target htarget => ?_
  · rw [hplace, hstands, hstands']
  · rw [hplace, hstands] at htarget
    cases htarget

/-- The groups that are listed are sampled. -/
lemma sampled_groupsAmong (h : Twins workspace root apart disk other) (hnamed : disk.Named)
    {entries : List Path} (hentries : ∀ entry ∈ entries, ∃ name, Path.IsName name ∧
      entry = pathOf (name :: rawPlace root)) {groups : List Group}
    (hend : Ends (groupsAmong entries) disk (.ok groups) disk) :
    ∀ group ∈ groups, Sampled root group := by
  intro group hgroup
  obtain ⟨entry, hentry, hfiles, hne⟩ := mem_groupsAmong hend group hgroup
  obtain ⟨name, hname, rfl⟩ := hentries entry hentry
  have hraw : rawPlace root <:+ name :: rawPlace root := List.suffix_cons _ _
  have hnames : ∀ n ∈ name :: rawPlace root, Path.IsName n :=
    List.forall_mem_cons.2 ⟨hname, h.left.isName .rawProfiles⟩
  refine ⟨hne, fun sample hsample => ?_⟩
  obtain ⟨file, hfile, rfl⟩ := (h.legible_samples hnamed hraw hnames).of_mem_files h.agree
    h.left.distinct hfiles hsample
  exact ⟨_, hraw.trans (List.suffix_cons _ _), List.forall_mem_cons.2 ⟨hfile, hnames⟩, rfl⟩

/-- The samples have the same content. -/
lemma content?_sample (h : Twins workspace root apart disk other) {group : Group}
    (hsampled : Sampled root group) {sample : Path} (hsample : sample ∈ group.samples) :
    sample.Proper ∧ other.content? sample = disk.content? sample := by
  obtain ⟨location, hraw, hnames, rfl⟩ := hsampled.place sample hsample
  exact ⟨proper_pathOf hnames, h.agree.content?_eq (h.straight_sample hraw hnames)⟩

/-- **The groups are the same**, and the store of samples stands. -/
theorem groups (h : Twins workspace root apart w.disk v.disk) (hnamed : w.disk.Named)
    {groups : List Group} {w' : World} (hend : Ends workspace.groups w (.ok groups) w') : ∃ v',
    Ends workspace.groups v (.ok groups) v' ∧ w' = { w with disk := w'.disk } ∧
      v' = { v with disk := v'.disk } ∧
      Twins workspace root (fun location => apart location ∧ location ≠ rawPlace root)
        w'.disk v'.disk ∧
      w'.disk.node? (rawPlace root) = some .directory ∧ ∀ group ∈ groups, Sampled root group := by
  have hnamed' := named_groups h.left.toRooted hnamed hend
  obtain ⟨path, u, hstore, hrest⟩ := ends_bind_ok.1 hend
  obtain rfl := path_of_store h.left.bound hstore
  obtain ⟨u', hstore', hu', htwins, hstands, -⟩ := h.store hstore
  obtain ⟨disk, hlist, rfl⟩ := ends_onDisk_ok.1 hrest
  obtain rfl : u.disk = disk :=
    (respects_entriesOf.bind fun entries => respects_groupsAmong entries) _ _ _ hlist
  have hlegible := htwins.legible_samples hnamed' List.suffix_rfl (h.left.isName .rawProfiles)
  have hplaces {entries : List Path} (hentries : Ends (entriesOf (pathOf (rawPlace root))) u.disk
      (.ok entries) u.disk) : ∀ entry ∈ entries, ∃ name, Path.IsName name ∧
        entry = pathOf (name :: rawPlace root) := by
    intro entry hentry
    obtain ⟨name, hname, -, rfl⟩ := hlegible.of_mem htwins.agree htwins.left.distinct hentries
      hentry
    exact ⟨name, hname, rfl⟩
  obtain ⟨entries, d, hentries, hamong⟩ := ends_bind_ok.1 hlist
  obtain rfl := respects_entriesOf _ _ _ hentries
  obtain ⟨_, hentries', -, rfl⟩ := same_entriesOf htwins.agree hlegible.straight
    htwins.left.distinct htwins.right.distinct hlegible.region _ _ hentries
  obtain ⟨_, hamong', -, rfl⟩ := htwins.answersAlike_groupsAmong hnamed' (hplaces hentries) _ _
    hamong
  refine ⟨u', hstore'.bind (ends_onDisk_ok.2 ⟨_, hentries'.bind hamong', rfl⟩), ?_, hu', htwins,
    hstands, htwins.sampled_groupsAmong hnamed' (hplaces hentries) hamong⟩
  rw [(disk_of_store h.left.toRooted hstore).2]

end Twins

end Pipeline

end WasmCoverage
