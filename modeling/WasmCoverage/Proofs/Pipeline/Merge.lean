import WasmCoverage.Proofs.Artifact.Name
import WasmCoverage.Proofs.Pipeline.Quiet
import WasmCoverage.Proofs.Tool.Merger

/-!
# Merged profiles

A merge regenerates one profile for every group of raw samples, and finds its place by the
directory name that is made of the group's.  Two groups share a profile exactly if they share that
name; then the later one has it.  **`merge_regenerates`** says that nothing else is shared: what
the profile of an outcome leads to when the merge ends is what the tool left for the samples of the
outcome's own group, unless a later group has the same profile.

The proof is about one entry of the directory that the profiles are in.  It is cleared before the
tool is called (`prepare_spec`), a step of another group leaves it alone (`allBut_mergeGroup`), and
the directory itself stays where it is (`Profiles`).  How the tool is called, and how an attempt at
a group ends, is said for every workspace (`mergeProfiles_ends`, `attempt_ends`).
-/

namespace WasmCoverage.Pipeline

open WasmCoverage.Disk WasmCoverage.Workspace

variable {pipeline : Pipeline} {tools : Toolbox} {extra : List String} {root directory : Location}
  {group : Group} {profile : Path} {made : String} {outcome : MergeOutcome} {w w' : World}

/-! ## The two halves of a step -/

/-- Clear the place of a group's profile. -/
def prepare (pipeline : Pipeline) (group : Group) : Run Path := do
  let profile ← pipeline.workspace.mergedProfile group.name
  note .info ("Merging " ++ toString group.samples.length ++ " profraw file(s) for " ++ group.name)
  onDisk (Disk.removeIfThere profile)
  return profile

/-- The outcome of a group that was merged. -/
def mergedOutcome (group : Group) (profile : Path) : MergeOutcome :=
  { name := group.name, sampleCount := group.samples.length, profilePath := profile.text,
    status := .merged }

/-- The outcome of a group that the tool failed to merge. -/
def failedMerge (group : Group) (profile : Path) (failure : Tool.Failure) : MergeOutcome :=
  { mergedOutcome group profile with status := .failed, message := failure.message }

/-- Have the tool merge a group; what a failure leaves is removed. -/
def attempt (pipeline : Pipeline) (tools : Toolbox) (extra : List String) (group : Group)
    (profile : Path) : Run MergeOutcome :=
  tryCatch (do
      let _ ← Tool.mergeProfiles tools pipeline.toolchain.llvmProfdata group.samples profile extra
      note .info ("Profdata file has been saved to " ++ profile.text)
      return mergedOutcome group profile)
    fun fault => match fault with
      | .tool failure => do
        note .warning ("Failed to merge profiles for " ++ group.name ++ ": " ++ failure.message)
        onDisk (Disk.removeIfThere profile)
        return failedMerge group profile failure
      | _ => throw fault

/-- **A step clears the place of the profile, and then has the tool fill it.** -/
theorem mergeGroup_eq (group : Group) : pipeline.mergeGroup tools extra group =
    pipeline.prepare group >>= pipeline.attempt tools extra group := by
  simp only [mergeGroup, prepare, bind_assoc, pure_bind]
  refine bind_congr fun profile => bind_congr fun _ => bind_congr fun _ => ?_
  refine tryCatch_early ?_ fun fault => ?_
  · simp only [bind_assoc]
    rfl
  · split
    · simp only [bind_assoc]
      rfl
    · simp

/-! ## The directory of the profiles -/

/-- The path of the store of profiles. -/
def profilesPath (root : Location) : Path :=
  pathOf (Store.mergedProfiles.directory :: root)

/-- The store of profiles leads to a directory. -/
structure Profiles (workspace : Workspace) (root directory : Location) (disk : Disk) : Prop where
  rooted : workspace.Rooted root disk
  leads : disk.find (profilesPath root) true = .ok directory
  stands : disk.node? directory = some .directory

/-- In that directory there is no entry of a name.  The store may have led there through the
entry that is gone; then it leads nowhere now. -/
structure Cleared (workspace : Workspace) (root directory : Location) (name : String)
    (disk : Disk) : Prop where
  rooted : workspace.Rooted root disk
  store : disk.node? (Store.mergedProfiles.directory :: root) ≠ none
  leads : ∀ other, disk.find (profilesPath root) true = .ok other →
    disk.node? other = some .directory → other = directory
  stands : disk.node? directory = some .directory
  clear : disk.node? (name :: directory) = none

variable {workspace : Workspace} {disk disk' : Disk} {name : String}

/-- The store is an entry of the root. -/
lemma Profiles.store_there (h : Profiles workspace root directory disk) :
    disk.node? (Store.mergedProfiles.directory :: root) ≠ none := by
  obtain ⟨stop, hstop, hthere⟩ := find_unfollowed h.leads (by simp [h.stands])
  obtain ⟨-, rfl⟩ :=
    (find_entry (h.rooted.tree.stands h.rooted.stands) (h.rooted.isName _)).1 hstop
  exact hthere

/-- Files may come and go in the directory of the profiles. -/
lemma Profiles.refiles (h : Profiles workspace root directory disk)
    (hrefiles : Refiles (· = name :: directory) disk disk') :
    Profiles workspace root directory disk' := by
  have htree : disk'.IsTree := by
    refine h.rooted.tree.refiles hrefiles fun n dir heq => ?_
    obtain ⟨-, rfl⟩ := List.cons.inj heq
    exact h.stands
  have hroot := hrefiles.keeps.directory root h.rooted.stands
  refine ⟨h.rooted.of_node? htree (hroot.trans h.rooted.stands.symm),
    hrefiles.find h.leads fun target => ?_, hrefiles.keeps.directory directory h.stands⟩
  simp [h.stands]

/-- The names of the profiles in the directory are names. -/
lemma isName_profile (h : Artifact.directoryName name = .ok made) :
    Path.IsName (made ++ mergedSuffix) :=
  Artifact.isName_of_directoryName h (by decide) (by rfl : lastChar? mergedSuffix = some 'a')
    (by decide)

/-- Neither the path of the profile is too long nor its name. -/
def Fits (root : Location) (name : String) : Prop :=
  ¬ (((profilesPath root).child name).text.utf8ByteSize > pathLimit ∨
    name.utf8ByteSize > nameLimit)

lemma Profiles.fits (h : Profiles workspace root directory disk) (hname : Path.IsName name)
    {reached : Location}
    (hfound : disk.find ((profilesPath root).child name) false = .ok reached) : Fits root name := by
  intro hlong
  rw [find_child h.leads h.stands hname (by simp), if_pos hlong] at hfound
  cases hfound

/-- A profile is found where its name says. -/
lemma Profiles.find (h : Profiles workspace root directory disk) (hname : Path.IsName name)
    (hfits : Fits root name) {follow : Bool}
    (hlink : follow = true → disk.NoLink (name :: directory)) :
    disk.find ((profilesPath root).child name) follow = .ok (name :: directory) := by
  rw [find_child h.leads h.stands hname hlink, if_neg hfits]

/-- Names with another last character are those of no profile. -/
lemma ne_profile {other : String} (h : lastChar? other ≠ some 'a') (made : String) :
    other ≠ made ++ mergedSuffix := by
  rintro rfl
  rw [lastChar?_append _ (by decide)] at h
  exact h (by decide)

/-! ## Clearing -/

/-- The path of a profile, as a step finds it. -/
lemma mergedProfile_spec {name : String}
    (h : Ends (workspace.mergedProfile name) w (.ok profile) w') :
    ∃ path made, Ends (workspace.store .mergedProfiles) w (.ok path) w' ∧
      Artifact.directoryName name = .ok made ∧ profile = path.child (made ++ mergedSuffix) := by
  obtain ⟨path, t, hstore, hrest⟩ := ends_bind_ok.1 h
  obtain ⟨made, t', hmade, hlast⟩ := ends_bind_ok.1 hrest
  obtain ⟨hprofile, rfl⟩ := ends_pure.1 hlast
  obtain ⟨hname, rfl⟩ := ends_directoryName_ok.1 hmade
  exact ⟨path, made, hstore, hname, Except.ok.inj hprofile⟩

/-- **The place of a profile is cleared**, whatever was there before. -/
theorem prepare_spec (hroot : pipeline.workspace.Rooted root w.disk)
    (h : Ends (pipeline.prepare group) w (.ok profile) w') :
    ∃ made directory started, Artifact.directoryName group.name = .ok made ∧
      profile = (profilesPath root).child (made ++ mergedSuffix) ∧
      Fits root (made ++ mergedSuffix) ∧ Profiles pipeline.workspace root directory started ∧
      (∀ other, Profiles pipeline.workspace root other w.disk →
        other = directory ∧ w.disk = started) ∧
      AllBut ((made ++ mergedSuffix) :: directory) started w'.disk ∧
      Cleared pipeline.workspace root directory (made ++ mergedSuffix) w'.disk := by
  obtain ⟨path, t, hplace, hrest⟩ := ends_bind_ok.1 h
  obtain ⟨store, made, hstore, hmade, rfl⟩ := mergedProfile_spec hplace
  obtain ⟨⟨⟩, t', hremove, hlast⟩ := ends_bind_ok.1 (ends_note_bind.1 hrest)
  obtain ⟨hprofile, rfl⟩ := ends_pure.1 hlast
  obtain rfl := Except.ok.inj hprofile
  obtain ⟨rfl, hrooted, hsame⟩ := rooted_store hroot hstore
  obtain ⟨-, directory, hleads, hstands⟩ := hasDirectory_store hstore
  have hprofiles : Profiles pipeline.workspace root directory t.disk := ⟨hrooted, hleads, hstands⟩
  obtain ⟨after, haction, rfl⟩ := ends_onDisk_ok.1 hremove
  rw [disk_noted] at haction
  obtain ⟨hfind, hnode, hallBut, hclear, htree⟩ :=
    removeIfThere_entry hrooted.tree hleads hstands (isName_profile hmade) haction
  have hrootNe : root ≠ (made ++ mergedSuffix) :: directory := by
    intro heq
    exact hnode (heq ▸ hrooted.stands)
  refine ⟨made, directory, t.disk, hmade, rfl, hprofiles.fits (isName_profile hmade) hfind,
    hprofiles, ?_, hallBut, ?_, ?_, ?_, ?_, hclear⟩
  · intro other hother
    obtain rfl := hsame hother.store_there
    exact ⟨Except.ok.inj (hother.leads.symm.trans hleads), rfl⟩
  · exact hrooted.of_node? htree (hallBut.node root hrootNe)
  · rw [hallBut.node _ fun heq => ne_profile (by decide) made (List.cons.inj heq).1]
    exact hprofiles.store_there
  · intro other hother hdir
    have hkeeps := hallBut.keeps hclear
    have hdir' := hkeeps.directory other hdir
    have hback := find_mono hkeeps hother fun _ target => by simp [hdir']
    exact Except.ok.inj (hback.symm.trans hleads)
  · rw [hallBut.node _ (List.cons_ne_self _ _).symm]
    exact hstands

/-! ## Filling -/

/-- What the tools answer when they are asked to merge a group in some world. -/
def answerTo (tools : Toolbox) (tool : String) (extra : List String) (group : Group)
    (profile : Path) (called : World) : Response :=
  tools.merging tool extra called.calls group.samples profile called.disk

/-- How a call of the tool for a group ends: it is not made, or it ends as the tool answers. -/
lemma mergeProfiles_ends {tool : String} (hsamples : group.samples ≠ []) {r : Except Fault Path}
    (h : Ends (Tool.mergeProfiles tools tool group.samples profile extra) w r w') :
    (∃ error, r = .error (.disk error) ∧ Quiet w w' ∧
        Ends (makeDirectories profile.parent) w.disk (.error error) w'.disk) ∨
      ∃ called, Ends (onDisk (makeDirectories profile.parent)) w (.ok ()) called ∧
        w'.disk = (answerTo tools tool extra group profile called).disk ∧
        w'.calls = w.calls ++ [⟨false, Tool.mergeCommand tool group.samples profile extra, none⟩] ∧
        r = (answerTo tools tool extra group profile called).outcome.map fun _ => profile := by
  unfold Tool.mergeProfiles at h
  rw [if_neg hsamples] at h
  rcases ends_bind.1 h with ⟨⟨⟩, called, hmake, hrest⟩ | ⟨_, hmake, rfl⟩
  · have hquiet : Quiet w called := (OnlyDisk.onDisk _).quiet _ _ _ hmake
    refine Or.inr ⟨called, hmake, ?_⟩
    rcases ends_bind.1 hrest with ⟨output, t, hcall, hlast⟩ | ⟨fault, hcall, rfl⟩
    · obtain ⟨houtcome, rfl⟩ := ends_call.1 hcall
      obtain ⟨rfl, rfl⟩ := ends_pure.1 hlast
      refine ⟨rfl, hquiet ▸ rfl, ?_⟩
      change _ = ((called.response tools _).outcome).map _
      rw [← houtcome]
      rfl
    · obtain ⟨houtcome, rfl⟩ := ends_call.1 hcall
      refine ⟨rfl, hquiet ▸ rfl, ?_⟩
      change _ = ((called.response tools _).outcome).map _
      rw [← houtcome]
      rfl
  · obtain ⟨result, disk, haction, hresult, rfl⟩ := ends_onDisk.1 hmake
    cases result with
    | ok value => cases hresult
    | error error => exact Or.inl ⟨error, by rw [Except.error.inj hresult], rfl, haction⟩

/-- Where the tool failed, what it left is removed and the failure is recorded, unless it cannot
be removed. -/
lemma handled_ends {failure : Tool.Failure} {message : String} {r : Except Fault MergeOutcome}
    (h : Ends (do
      note .warning message
      onDisk (removeIfThere profile)
      return failedMerge group profile failure) w r w') : Quiet w w' ∧
      (r = .ok (failedMerge group profile failure) ∧
          Ends (removeIfThere profile) w.disk (.ok ()) w'.disk ∨
        ∃ error, r = .error (.disk error) ∧
          Ends (removeIfThere profile) w.disk (.error error) w'.disk) := by
  rcases ends_bind.1 (ends_note_bind.1 h) with ⟨⟨⟩, t, hremove, hlast⟩ | ⟨_, hremove, rfl⟩
  · obtain ⟨rfl, rfl⟩ := ends_pure.1 hlast
    obtain ⟨disk, haction, rfl⟩ := ends_onDisk_ok.1 hremove
    exact ⟨rfl, Or.inl ⟨rfl, haction⟩⟩
  · obtain ⟨result, disk, haction, hresult, rfl⟩ := ends_onDisk.1 hremove
    cases result with
    | ok value => cases hresult
    | error error => exact ⟨rfl, Or.inr ⟨error, by rw [Except.error.inj hresult], haction⟩⟩

/-- **How an attempt at a group ends**: its profile was made, or the tool failed and what it left is
removed, or something else went wrong and is passed on. -/
theorem attempt_ends {r : Except Fault MergeOutcome}
    (h : Ends (pipeline.attempt tools extra group profile) w r w') :
    (∃ path called, r = .ok (mergedOutcome group profile) ∧
        Ends (Tool.mergeProfiles tools pipeline.toolchain.llvmProfdata group.samples profile extra)
          w (.ok path) called ∧ Quiet called w' ∧ w'.disk = called.disk) ∨
      (∃ failure called,
        Ends (Tool.mergeProfiles tools pipeline.toolchain.llvmProfdata group.samples profile extra)
          w (.error (.tool failure)) called ∧ Quiet called w' ∧
        (r = .ok (failedMerge group profile failure) ∧
            Ends (removeIfThere profile) called.disk (.ok ()) w'.disk ∨
          ∃ error, r = .error (.disk error) ∧
            Ends (removeIfThere profile) called.disk (.error error) w'.disk)) ∨
      ∃ fault, r = .error fault ∧ (∀ failure, fault ≠ .tool failure) ∧
        Ends (Tool.mergeProfiles tools pipeline.toolchain.llvmProfdata group.samples profile extra)
          w (.error fault) w' := by
  rcases ends_tryCatch.1 h with ⟨outcome, hmerged, rfl⟩ | ⟨fault, called, hmerged, hhandled⟩
  · obtain ⟨path, called, hcall, hrest⟩ := ends_bind_ok.1 hmerged
    obtain ⟨houtcome, rfl⟩ := ends_pure.1 (ends_note_bind.1 hrest)
    exact Or.inl ⟨path, called, houtcome, hcall, rfl, rfl⟩
  have hcall : Ends (Tool.mergeProfiles tools pipeline.toolchain.llvmProfdata group.samples
      profile extra) w (.error fault) called := by
    rcases ends_bind.1 hmerged with ⟨_, _, -, hrest⟩ | ⟨_, hcall, hr⟩
    · cases (ends_pure.1 (ends_note_bind.1 hrest)).1
    · obtain rfl := Except.error.inj hr
      exact hcall
  split at hhandled
  · next failure => exact Or.inr (Or.inl ⟨failure, called, hcall, handled_ends hhandled⟩)
  · next hother =>
    obtain ⟨rfl, rfl⟩ := ends_throw.1 hhandled
    exact Or.inr (Or.inr ⟨fault, rfl, fun failure heq => hother failure heq, hcall⟩)

/-- A profile is one of its own: its place was clear when the tool was called for the samples of
the group.  It is as the tool left it if the tool succeeded, and not there if the tool failed. -/
structure Regenerated (tools : Toolbox) (tool : String) (extra : List String) (group : Group)
    (profile : Path) (called : World) (after : Disk) (outcome : MergeOutcome) : Prop where
  name : outcome.name = group.name
  sampleCount : outcome.sampleCount = group.samples.length
  profilePath : outcome.profilePath = profile.text
  clear : called.disk.Free profile
  merged : outcome.status = .merged →
    (∃ output, (answerTo tools tool extra group profile called).outcome = .ok output) ∧
      after.look profile true =
        (answerTo tools tool extra group profile called).disk.look profile true
  failed : outcome.status = .failed →
    (∃ failure, (answerTo tools tool extra group profile called).outcome =
      .error (.tool failure)) ∧ after.Free profile

lemma Profiles.free (h : Profiles workspace root directory disk) (hname : Path.IsName name)
    (hfits : Fits root name) (hclear : disk.node? (name :: directory) = none) :
    disk.Free ((profilesPath root).child name) :=
  ⟨_, h.find hname hfits (by simp), hclear⟩

/-- A profile that is there, or not, is found as it is. -/
lemma Profiles.look (h : Profiles workspace root directory disk)
    (h' : Profiles workspace root directory disk') (hname : Path.IsName name)
    (hfits : Fits root name) (hplain : Plain (disk.node? (name :: directory)))
    (hsame : disk'.node? (name :: directory) = disk.node? (name :: directory)) :
    disk'.look ((profilesPath root).child name) true =
      disk.look ((profilesPath root).child name) true := by
  have hlink : disk.NoLink (name :: directory) := fun target => hplain.ne_link target
  have hlink' : disk'.NoLink (name :: directory) := fun target => hsame ▸ hplain.ne_link target
  rw [Disk.look, Disk.look, h.find hname hfits fun _ => hlink, h'.find hname hfits fun _ => hlink']
  simp only [Bind.bind, Except.bind, hsame]

/-- The tool writes no file but the profile. -/
lemma refiles_answer (group : Group) {tool : String} (h : Profiles workspace root directory w.disk)
    (hclear : w.disk.node? (name :: directory) = none) (hname : Path.IsName name)
    (hfits : Fits root name) (htools : tools.Merges tool extra) :
    Refiles (· = name :: directory) w.disk
      (answerTo tools tool extra group ((profilesPath root).child name) w).disk := by
  have hproper : (profilesPath root).Proper := h.rooted.proper_store .mergedProfiles
  refine (htools _ _ _ _ (hproper.child hname)).mono fun location hlocation => ?_
  rw [h.find hname hfits fun _ target => by simp [hclear]] at hlocation
  exact (Except.ok.inj hlocation).symm

lemma plain_of_refiles {place : Location} (h : Refiles (· = place) disk disk')
    (hnone : disk.node? place = none) : Plain (disk'.node? place) := by
  rcases h.node place with heq | ⟨-, -, hplain⟩
  · exact Or.inl (heq.trans hnone)
  · exact hplain

/-- A call of the tool: it is not made, or it is made where the store still leads to the
directory. -/
lemma mergeProfiles_spec {tool : String} {r : Except Fault Path}
    (hclear : Cleared workspace root directory name w.disk) (hname : Path.IsName name)
    (hfits : Fits root name) (htools : tools.Merges tool extra)
    (h : Ends (Tool.mergeProfiles tools tool group.samples ((profilesPath root).child name) extra)
      w r w') :
    (∃ fault, r = .error fault ∧ ∀ failure, fault ≠ .tool failure) ∨
      (Profiles workspace root directory w.disk ∧
        Refiles (· = name :: directory) w.disk w'.disk ∧
        w'.disk = (answerTo tools tool extra group ((profilesPath root).child name) w).disk ∧
        ((∃ path output, r = .ok path ∧ (answerTo tools tool extra group
            ((profilesPath root).child name) w).outcome = .ok output) ∨
          ∃ fault, r = .error fault ∧ (answerTo tools tool extra group
            ((profilesPath root).child name) w).outcome = .error fault)) := by
  by_cases hsamples : group.samples = []
  · rw [Tool.mergeProfiles, if_pos hsamples] at h
    exact Or.inl ⟨_, (ends_throw_bind.1 h).1, by simp⟩
  rcases mergeProfiles_ends hsamples h with ⟨error, rfl, -⟩ | ⟨called, hmake, hdisk, -, rfl⟩
  · exact Or.inl ⟨_, rfl, by simp⟩
  rw [Path.parent_child _ hname] at hmake
  obtain ⟨after, haction, rfl⟩ := ends_onDisk_ok.1 hmake
  obtain ⟨-, hsame⟩ := makeDirectories_entry
    (hclear.rooted.tree.stands hclear.rooted.stands) (hclear.rooted.isName _) haction
  rw [if_neg hclear.store] at hsame
  subst hsame
  obtain ⟨-, other, hleads, hdir⟩ := hasDirectory_makeDirectories (by simp [profilesPath, pathOf])
    haction
  obtain rfl := hclear.leads other hleads hdir
  have hprofiles : Profiles workspace root other w.disk := ⟨hclear.rooted, hleads, hdir⟩
  have hrefiles := refiles_answer group hprofiles hclear.clear hname hfits htools
  refine Or.inr ⟨hprofiles, hdisk ▸ hrefiles, hdisk, ?_⟩
  change (∃ path output, Except.map _ (answerTo tools tool extra group
    ((profilesPath root).child name) w).outcome = _ ∧ _) ∨ ∃ fault, Except.map _ (answerTo tools
      tool extra group ((profilesPath root).child name) w).outcome = _ ∧ _
  cases (answerTo tools tool extra group ((profilesPath root).child name) w).outcome with
  | ok output => exact Or.inl ⟨_, output, rfl, rfl⟩
  | error fault => exact Or.inr ⟨fault, rfl, rfl⟩

/-- **The place of a profile is filled**, or it is clear again. -/
theorem attempt_spec (hclear : Cleared pipeline.workspace root directory name w.disk)
    (hname : Path.IsName name) (hfits : Fits root name)
    (htools : tools.Merges pipeline.toolchain.llvmProfdata extra)
    (h : Ends (pipeline.attempt tools extra group ((profilesPath root).child name)) w
      (.ok outcome) w') :
    Profiles pipeline.workspace root directory w'.disk ∧
      AllBut (name :: directory) w.disk w'.disk ∧ Plain (w'.disk.node? (name :: directory)) ∧
      Regenerated tools pipeline.toolchain.llvmProfdata extra group
        ((profilesPath root).child name) w w'.disk outcome := by
  rcases attempt_ends h with ⟨path, called, hr, hcall, -, hsame⟩ |
    ⟨failure, called, hcall, -, ⟨hr, hremove⟩ | ⟨_, hr, -⟩⟩ | ⟨_, hr, -⟩
  · obtain rfl := Except.ok.inj hr
    rcases mergeProfiles_spec hclear hname hfits htools hcall with
      ⟨fault, hfault, -⟩ | ⟨hprofiles, hrefiles, hdisk, hr⟩
    · cases hfault
    rw [← hsame] at hrefiles hdisk
    refine ⟨hprofiles.refiles hrefiles, hrefiles.allBut fun _ h => h,
      plain_of_refiles hrefiles hclear.clear, rfl, rfl, rfl,
      hprofiles.free hname hfits hclear.clear, fun _ => ⟨?_, by rw [hdisk]⟩, fun h => by cases h⟩
    rcases hr with ⟨path, output, -, houtput⟩ | ⟨fault, hfault, -⟩
    · exact ⟨output, houtput⟩
    · cases hfault
  · obtain rfl := Except.ok.inj hr
    rcases mergeProfiles_spec hclear hname hfits htools hcall with
      ⟨fault, hfault, hno⟩ | ⟨hprofiles, hrefiles, -, hr⟩
    · exact absurd (Except.error.inj hfault).symm (hno failure)
    have hprofiles' := hprofiles.refiles hrefiles
    obtain ⟨-, -, hallBut, hnone, -⟩ := removeIfThere_entry hprofiles'.rooted.tree
      hprofiles'.leads hprofiles'.stands hname hremove
    have hremoved := hallBut.refiles (plain_of_refiles hrefiles hclear.clear) (Or.inl hnone)
    have hprofiles'' := hprofiles'.refiles hremoved
    refine ⟨hprofiles'', (hrefiles.allBut fun _ h => h).trans hallBut, Or.inl hnone, rfl, rfl,
      rfl, hprofiles.free hname hfits hclear.clear, (fun h => by cases h),
      fun _ => ⟨⟨failure, ?_⟩, hprofiles''.free hname hfits hnone⟩⟩
    rcases hr with ⟨path, output, hpath, -⟩ | ⟨fault, hfault, houtcome⟩
    · cases hpath
    · rw [houtcome, Except.error.inj hfault]
  · cases hr
  · cases hr

/-! ## A step -/

/-- **A step regenerates the profile of its group,** and does nothing else to the directory that
the profiles are in. -/
theorem mergeGroup_spec (hroot : pipeline.workspace.Rooted root w.disk)
    (htools : tools.Merges pipeline.toolchain.llvmProfdata extra)
    (h : Ends (pipeline.mergeGroup tools extra group) w (.ok outcome) w') :
    ∃ made directory called, Artifact.directoryName group.name = .ok made ∧
      Fits root (made ++ mergedSuffix) ∧
      Ends (pipeline.prepare group) w (.ok ((profilesPath root).child (made ++ mergedSuffix)))
        called ∧
      Regenerated tools pipeline.toolchain.llvmProfdata extra group
        ((profilesPath root).child (made ++ mergedSuffix)) called w'.disk outcome ∧
      Profiles pipeline.workspace root directory w'.disk ∧
      Plain (w'.disk.node? ((made ++ mergedSuffix) :: directory)) ∧
      ∀ other, Profiles pipeline.workspace root other w.disk → other = directory ∧
        AllBut ((made ++ mergedSuffix) :: directory) w.disk w'.disk := by
  rw [mergeGroup_eq] at h
  obtain ⟨profile, called, hprepare, hattempt⟩ := ends_bind_ok.1 h
  obtain ⟨made, directory, started, hmade, rfl, hfits, -, hsame, hallBut, hclear⟩ :=
    prepare_spec hroot hprepare
  obtain ⟨hprofiles, hfilled, hplain, hregenerated⟩ :=
    attempt_spec hclear (isName_profile hmade) hfits htools hattempt
  refine ⟨made, directory, called, hmade, hfits, hprepare, hregenerated, hprofiles, hplain, ?_⟩
  intro other hother
  obtain ⟨rfl, hstarted⟩ := hsame other hother
  rw [← hstarted] at hallBut
  exact ⟨rfl, hallBut.trans hfilled⟩

/-- The workspace stays rooted from step to step. -/
lemma rooted_mergeGroup (htools : tools.Merges pipeline.toolchain.llvmProfdata extra)
    (groups : List Group) : ∀ group ∈ groups, ∀ w outcome w',
    pipeline.workspace.Rooted root w.disk →
    Ends (pipeline.mergeGroup tools extra group) w (.ok outcome) w' →
    pipeline.workspace.Rooted root w'.disk := by
  intro group _ w outcome w' hroot h
  obtain ⟨made, directory, called, -, -, -, -, hprofiles, -⟩ := mergeGroup_spec hroot htools h
  exact hprofiles.rooted

/-- The profile of an outcome is named for its group. -/
lemma profilePath_mergeGroup (hroot : pipeline.workspace.Rooted root w.disk)
    (htools : tools.Merges pipeline.toolchain.llvmProfdata extra)
    (h : Ends (pipeline.mergeGroup tools extra group) w (.ok outcome) w') :
    ∃ made, Artifact.directoryName group.name = .ok made ∧
      outcome.profilePath = ((profilesPath root).child (made ++ mergedSuffix)).text := by
  obtain ⟨made, directory, called, hmade, -, -, hregenerated, -⟩ := mergeGroup_spec hroot htools h
  exact ⟨made, hmade, hregenerated.profilePath⟩

/-- **A step of a group with another profile leaves a profile alone.** -/
theorem allBut_mergeGroup {kept : String} {node : Option Node}
    (htools : tools.Merges pipeline.toolchain.llvmProfdata extra)
    (hne : ∀ made, Artifact.directoryName group.name = .ok made → made ++ mergedSuffix ≠ kept)
    (hprofiles : Profiles pipeline.workspace root directory w.disk)
    (hnode : w.disk.node? (kept :: directory) = node)
    (h : Ends (pipeline.mergeGroup tools extra group) w (.ok outcome) w') :
    Profiles pipeline.workspace root directory w'.disk ∧
      w'.disk.node? (kept :: directory) = node := by
  obtain ⟨made, other, called, hmade, -, -, -, hprofiles', -, hallBut⟩ :=
    mergeGroup_spec hprofiles.rooted htools h
  obtain ⟨rfl, hallBut⟩ := hallBut directory hprofiles
  refine ⟨hprofiles', (hallBut.node _ fun heq => ?_).trans hnode⟩
  exact hne made hmade (List.cons.inj heq).1.symm

/-! ## The main result -/

/-- How a merge ends when every group was tried. -/
def verdict (outcomes : List MergeOutcome) : Except Fault (List MergeOutcome) :=
  match allFailed? (fun _ => true) (fun o : MergeOutcome => o.status = .failed) outcomes with
  | some count => .error (.phase (.merges count))
  | none => .ok outcomes

/-- A merge ends where all groups were tried, and answers with the outcomes unless all failed. -/
lemma ends_merge {outcomes : List MergeOutcome}
    (h : Ends (pipeline.mergeAll tools extra) w (.ok outcomes) w') :
    Ends (pipeline.merge tools extra) w (verdict outcomes) w' := by
  refine h.bind ?_
  unfold verdict
  cases allFailed? (fun _ => true) (fun o : MergeOutcome => o.status = .failed) outcomes with
  | some count => exact Ends.bind_error (ends_throw.2 ⟨rfl, rfl⟩)
  | none => exact ends_pure.2 ⟨rfl, rfl⟩

/-- Where there is one group, its outcome is the only one. -/
lemma ends_mergeAll_single (hgroups : Ends pipeline.workspace.groups w (.ok [group]) w)
    (hgroup : Ends (pipeline.mergeGroup tools (pipeline.settings.mergeArguments ++ extra) group) w
      (.ok outcome) w') : Ends (pipeline.mergeAll tools extra) w (.ok [outcome]) w' := by
  refine hgroups.bind ?_
  rw [List.mapM_cons, List.mapM_nil]
  exact hgroup.bind ((ends_pure.2 ⟨rfl, rfl⟩).bind (ends_pure.2 ⟨rfl, rfl⟩))

lemma ofString_inj {a b : String} : LooseText.ofString a = LooseText.ofString b ↔ a = b := by
  constructor
  · intro h
    rw [← LooseText.lossy_ofString a, h, LooseText.lossy_ofString]
  · rintro rfl
    rfl

/-- A profile that stays as it is stays what it is. -/
lemma Regenerated.keep {tool : String} {called : World}
    (h : Regenerated tools tool extra group ((profilesPath root).child name) called disk outcome)
    (hname : Path.IsName name) (hfits : Fits root name)
    (hprofiles : Profiles workspace root directory disk)
    (hprofiles' : Profiles workspace root directory disk')
    (hplain : Plain (disk.node? (name :: directory)))
    (hsame : disk'.node? (name :: directory) = disk.node? (name :: directory)) :
    Regenerated tools tool extra group ((profilesPath root).child name) called disk' outcome := by
  refine ⟨h.name, h.sampleCount, h.profilePath, h.clear, fun hmerged => ?_, fun hfailed => ?_⟩
  · obtain ⟨houtput, hlook⟩ := h.merged hmerged
    exact ⟨houtput, (hprofiles.look hprofiles' hname hfits hplain hsame).trans hlook⟩
  · obtain ⟨hfailure, location, hfind, hnone⟩ := h.failed hfailed
    rw [hprofiles.find hname hfits (by simp)] at hfind
    obtain rfl := Except.ok.inj hfind
    exact ⟨hfailure, hprofiles'.free hname hfits (hsame.trans hnone)⟩

section Run

variable {groups : List Group} {outcomes : List MergeOutcome} {before after : World}

/-- Two outcomes of a run share a profile exactly if their groups share a directory name. -/
lemma profilePath_eq_iff (hroot : pipeline.workspace.Rooted root before.disk)
    (htools : tools.Merges pipeline.toolchain.llvmProfdata extra)
    (h : Ends (groups.mapM (pipeline.mergeGroup tools extra)) before (.ok outcomes) after)
    {i j : Nat} {g g' : Group} {a b : MergeOutcome} (hg : groups[i]? = some g)
    (hg' : groups[j]? = some g') (ha : outcomes[i]? = some a) (hb : outcomes[j]? = some b) :
    a.profilePath = b.profilePath ↔
      Artifact.directoryName g.name = Artifact.directoryName g'.name := by
  obtain ⟨group, t, t', hgroup, ht, hanswer⟩ :=
    h.exists_item hroot (rooted_mergeGroup htools groups) ha
  obtain ⟨group', u, u', hgroup', hu, hanswer'⟩ :=
    h.exists_item hroot (rooted_mergeGroup htools groups) hb
  obtain rfl := Option.some.inj (hg.symm.trans hgroup)
  obtain rfl := Option.some.inj (hg'.symm.trans hgroup')
  obtain ⟨made, hmade, hpath⟩ := profilePath_mergeGroup ht htools hanswer
  obtain ⟨made', hmade', hpath'⟩ := profilePath_mergeGroup hu htools hanswer'
  have hproper : (profilesPath root).Proper := hroot.proper_store .mergedProfiles
  rw [hpath, hpath', hmade, hmade', ofString_inj, Path.child_text_inj hproper
    (isName_profile hmade) (isName_profile hmade'), String.append_left_inj, Except.ok.injEq]

/-- A profile outlives the later steps of a run if none of their outcomes shares it. -/
lemma keeps_of_run {kept : String} (htools : tools.Merges pipeline.toolchain.llvmProfdata extra)
    (hprofiles : Profiles pipeline.workspace root directory before.disk)
    (h : Ends (groups.mapM (pipeline.mergeGroup tools extra)) before (.ok outcomes) after)
    (hlater : ∀ other ∈ outcomes,
      other.profilePath ≠ ((profilesPath root).child kept).text) :
    Profiles pipeline.workspace root directory after.disk ∧
      after.disk.node? (kept :: directory) = before.disk.node? (kept :: directory) := by
  refine h.mapM_keeps (I := fun s => Profiles pipeline.workspace root directory s.disk ∧
    s.disk.node? (kept :: directory) = before.disk.node? (kept :: directory)) ⟨hprofiles, rfl⟩ ?_
  rintro group hgroup s a s' ⟨hs, hnode⟩ hgroupStep
  refine allBut_mergeGroup htools (fun made hmade heq => ?_) hs hnode hgroupStep
  obtain ⟨other, hother, t, t', ht, hanswer⟩ :=
    h.exists_answer hprofiles.rooted (rooted_mergeGroup htools groups) hgroup
  obtain ⟨made', hmade', hpath⟩ := profilePath_mergeGroup ht htools hanswer
  obtain rfl := Except.ok.inj (hmade.symm.trans hmade')
  exact hlater other hother (heq ▸ hpath)

end Run

/-- **Every profile belongs to its own group.**  When a merge ends, two outcomes share a profile
exactly if their groups share a directory name.  The profile of an outcome that no later one
shares is as the tool left it for the samples of the outcome's group if they were merged, and not
there if the tool failed, whatever was there before. -/
theorem merge_regenerates {groups : List Group} {outcomes : List MergeOutcome}
    {world before after : World} (hroot : pipeline.workspace.Rooted root world.disk)
    (htools : tools.Merges pipeline.toolchain.llvmProfdata
      (pipeline.settings.mergeArguments ++ extra))
    (hgroups : Ends pipeline.workspace.groups world (.ok groups) before)
    (hmerge : Ends (pipeline.mergeAll tools extra) world (.ok outcomes) after) :
    Ends (pipeline.merge tools extra) world (verdict outcomes) after ∧
      groups.length = outcomes.length ∧
      (∀ (i j : Nat) (g g' : Group) (a b : MergeOutcome), groups[i]? = some g →
        groups[j]? = some g' → outcomes[i]? = some a → outcomes[j]? = some b →
        (a.profilePath = b.profilePath ↔
          Artifact.directoryName g.name = Artifact.directoryName g'.name)) ∧
      ∀ earlier outcome later, outcomes = earlier ++ outcome :: later →
        (∀ other ∈ later, other.profilePath ≠ outcome.profilePath) →
        ∃ group profile started called, groups[earlier.length]? = some group ∧
          Ends ((groups.take earlier.length).mapM (pipeline.mergeGroup tools
            (pipeline.settings.mergeArguments ++ extra))) before (.ok earlier) started ∧
          Ends (pipeline.prepare group) started (.ok profile) called ∧
          Regenerated tools pipeline.toolchain.llvmProfdata
            (pipeline.settings.mergeArguments ++ extra) group profile called after.disk
            outcome := by
  have hrooted : pipeline.workspace.Rooted root before.disk := rooted_groups hroot hgroups
  have hrun : Ends (groups.mapM (pipeline.mergeGroup tools
      (pipeline.settings.mergeArguments ++ extra))) before (.ok outcomes) after := by
    obtain ⟨found, t, hfound, hrest⟩ := ends_bind_ok.1 hmerge
    obtain ⟨heq, rfl⟩ := hfound.unique hgroups
    obtain rfl := Except.ok.inj heq
    exact hrest
  refine ⟨ends_merge hmerge, hrun.length_mapM, fun i j g g' a b hg hg' ha hb =>
    profilePath_eq_iff hrooted htools hrun hg hg' ha hb, ?_⟩
  · rintro earlier outcome later rfl hlater
    obtain ⟨firsts, group, lasts, started, t, rfl, hlength, hfirsts, hanswer, hlasts⟩ :=
      ends_mapM_split hrun
    have hstarted : pipeline.workspace.Rooted root started.disk :=
      hfirsts.mapM_keeps hrooted (rooted_mergeGroup htools firsts)
    obtain ⟨made, directory, called, hmade, hfits, hprepare, hregenerated, hprofiles, hplain, -⟩ :=
      mergeGroup_spec hstarted htools hanswer
    rw [hregenerated.profilePath] at hlater
    obtain ⟨hprofiles', hsame⟩ := keeps_of_run htools hprofiles hlasts hlater
    refine ⟨group, _, started, called, by simp [← hlength], ?_, hprepare,
      hregenerated.keep (isName_profile hmade) hfits hprofiles hprofiles' hplain hsame⟩
    rw [← hlength, List.take_left]
    exact hfirsts

/-! ## Groups that share a profile -/

section Sharing

/-- A pipeline with the workspace `/w`. -/
def profilePipeline : Pipeline where
  settings := {}
  toolchain := ⟨"17", true, "clang-17", "llvm-profdata-17", "llvm-cov-17"⟩
  workspace := ⟨some (pathOf ["w"])⟩

/-- The raw samples of three groups, and an old profile of the last one. -/
def rawWorld : World where
  disk :=
    let samples (name text : String) : List (Location × Node) :=
      [([name, "raw-profiles", "w"], .directory),
        (["s.profraw", name, "raw-profiles", "w"], .file (Text.octetsOf text) false)]
    { here := []
      entries := [(["w"], .directory), (["merged-profiles", "w"], .directory),
        (["c.profdata", "merged-profiles", "w"], .file (Text.octetsOf "old") false),
        (["raw-profiles", "w"], .directory)] ++
        samples "a b" "x" ++ samples "a_b" "" ++ samples "c" "y" }
  clock := ⟨2024, 5, 1, 0, 0, 0, 0⟩

/-- A group of one sample. -/
def rawGroup (name : String) : Group :=
  ⟨name, [pathOf ["s.profraw", name, "raw-profiles", "w"]]⟩

/-- The groups, in order. -/
def rawGroups : List Group :=
  [rawGroup "a b", rawGroup "a_b", rawGroup "c"]

/-- A profile in the store. -/
def storedProfile (made : String) : Path :=
  (profilesPath ["w"]).child (made ++ mergedSuffix)

/-- There is nothing in the sample of the group `a_b`. -/
def emptyFailure : Tool.Failure :=
  ⟨["llvm-profdata-17", "merge", "-sparse", "/w/raw-profiles/a_b/s.profraw", "-o",
    "/w/merged-profiles/a_b.profdata"], 1, "no counters"⟩

/-- The outcomes of the groups. -/
def rawOutcomes : List MergeOutcome :=
  [mergedOutcome (rawGroup "a b") (storedProfile "a_b"),
    failedMerge (rawGroup "a_b") (storedProfile "a_b") emptyFailure,
    mergedOutcome (rawGroup "c") (storedProfile "c")]

lemma rooted_rawWorld : profilePipeline.workspace.Rooted ["w"] rawWorld.disk :=
  ⟨rfl, by decide +kernel, isTree_of_entries (by decide +kernel), by decide +kernel⟩

/-- Where every group has one sample, these are the groups. -/
lemma ends_groups_of_samples {w : World} (names : List String)
    (hstore : Ends (profilePipeline.workspace.store .rawProfiles) w
      (.ok (pathOf ["raw-profiles", "w"])) w)
    (hlists : Lists w.disk ["raw-profiles", "w"] names)
    (hsamples : ∀ name ∈ names, Lists w.disk [name, "raw-profiles", "w"] ["s.profraw"] ∧
      hasNul (pathOf ["s.profraw", name, "raw-profiles", "w"]) = false ∧
      w.disk.content? (pathOf ["s.profraw", name, "raw-profiles", "w"]) ≠ none) :
    Ends profilePipeline.workspace.groups w (.ok (names.map rawGroup)) w :=
  ends_groups_of_lists hstore hlists (by decide : hasSuffix rawSuffix "s.profraw" = true) hsamples

lemma ends_groups_rawWorld :
    Ends profilePipeline.workspace.groups rawWorld (.ok rawGroups) rawWorld :=
  ends_groups_of_samples ["a b", "a_b", "c"] (by decide +kernel) (by decide +kernel)
    (by decide +kernel)

/-- A call of the tool for one sample. -/
lemma mergeProfiles_single (tool : String) (sample profile : Path) :
    Tool.mergeProfiles tools tool [sample] profile [] = (do
      onDisk (Disk.makeDirectories profile.parent)
      let _ ← listen tools [tool, "merge", "-sparse", sample.text, "-o", profile.text] none
      return profile) := by
  simp [Tool.mergeProfiles, Tool.mergeCommand, Tool.mergeInputs]

lemma ends_mergeAll_rawWorld : ∃ after,
    Ends (profilePipeline.mergeAll Tool.joiner []) rawWorld (.ok rawOutcomes) after ∧
      after.disk.look (storedProfile "a_b") true = .error .missing := by
  have hrun : ∃ after, Ends (rawGroups.mapM (profilePipeline.mergeGroup Tool.joiner [])) rawWorld
      (.ok rawOutcomes) after ∧
        after.disk.look (storedProfile "a_b") true = .error .missing := by
    simp only [rawGroups, rawGroup, List.mapM_cons, List.mapM_nil, mergeGroup,
      mergeProfiles_single]
    refine ⟨_, ends_of_result ?_, ?_⟩
    · decide +kernel
    · decide +kernel
  obtain ⟨after, hrun, hlook⟩ := hrun
  exact ⟨after, ends_groups_rawWorld.bind hrun, hlook⟩

/-- When three groups are merged, the profile of the last two outcomes is their own: the tool
failed for `a_b`, and succeeded for `c` in the place of an old profile. -/
theorem merge_regenerates_raw : ∃ after,
    Ends (profilePipeline.merge Tool.joiner []) rawWorld (verdict rawOutcomes) after ∧
      ∀ i ∈ [1, 2], ∃ group outcome profile called, rawGroups[i]? = some group ∧
        rawOutcomes[i]? = some outcome ∧
        Regenerated Tool.joiner "llvm-profdata-17" [] group profile called after.disk outcome := by
  obtain ⟨after, hmerge, -⟩ := ends_mergeAll_rawWorld
  obtain ⟨hend, -, -, hown⟩ := merge_regenerates rooted_rawWorld (Tool.merges_joiner _)
    ends_groups_rawWorld hmerge
  obtain ⟨group, profile, started, called, hgroup, -, -, hregenerated⟩ :=
    hown [mergedOutcome (rawGroup "a b") (storedProfile "a_b")] _ _ rfl (by decide +kernel)
  obtain ⟨group', profile', started', called', hgroup', -, -, hregenerated'⟩ :=
    hown [mergedOutcome (rawGroup "a b") (storedProfile "a_b"),
      failedMerge (rawGroup "a_b") (storedProfile "a_b") emptyFailure] _ _ rfl (by decide +kernel)
  refine ⟨after, hend, fun i hi => ?_⟩
  rcases List.mem_cons.1 hi with rfl | hi
  · exact ⟨group, _, profile, called, hgroup, rfl, hregenerated⟩
  · obtain rfl := List.mem_singleton.1 hi
    exact ⟨group', _, profile', called', hgroup', rfl, hregenerated'⟩

/-- **Groups that share a directory name share a profile.**  The groups `a b` and `a_b` do.  The
merge of the first one succeeds, and yet its profile is not there when the run ends, since the merge
of the second one failed. -/
theorem not_merge_regenerates_of_shared_name :
    Tool.joiner.Merges "llvm-profdata-17" [] ∧
    profilePipeline.workspace.Rooted ["w"] rawWorld.disk ∧
    Ends profilePipeline.workspace.groups rawWorld (.ok rawGroups) rawWorld ∧ ∃ after,
      Ends (profilePipeline.merge Tool.joiner []) rawWorld (.ok rawOutcomes) after ∧
      ¬ (rawOutcomes.map MergeOutcome.profilePath).Nodup ∧
      after.disk.look (storedProfile "a_b") true = .error .missing ∧
      ∃ outcome, rawOutcomes[0]? = some outcome ∧ outcome.status = .merged ∧ ∀ called,
        ¬ Regenerated Tool.joiner "llvm-profdata-17" [] (rawGroup "a b") (storedProfile "a_b")
          called after.disk outcome := by
  obtain ⟨after, hmerge, hlook⟩ := ends_mergeAll_rawWorld
  refine ⟨Tool.merges_joiner _, rooted_rawWorld, ends_groups_rawWorld, after, ends_merge hmerge,
    by decide +kernel, hlook, _, rfl, rfl, fun called hregenerated => ?_⟩
  obtain ⟨⟨output, houtput⟩, hsame⟩ := hregenerated.merged rfl
  have hproper : (storedProfile "a_b").Proper := by decide +kernel
  obtain ⟨data, hdata⟩ := Tool.content?_joiner hproper houtput
  have hnone : (answerTo Tool.joiner "llvm-profdata-17" [] (rawGroup "a b") (storedProfile "a_b")
      called).disk.content? (storedProfile "a_b") = none := by
    rw [content?, ← hsame, hlook]
  cases hnone.symm.trans hdata

end Sharing

end WasmCoverage.Pipeline
